import StoreMigration.Proofs.Migration.FaultPatterns

/-! Legacy keys that are left beside a record. A migration looks whether the schema number is
still there, and goes on as if it were not, whatever it finds: two stores that differ in nothing
but the legacy keys are migrated alike. The look-up itself is not overlooked, though. Where it
is refused, the migration ends with its error. -/

namespace StoreMigration

open Bookkeeping

namespace Legacy

/-! ## Looking at the residue -/

abbrev residueRequest : Request := .get bucket versionKey

section Residue

variable (backend : Backend σ) (state : σ)

/-- What the look-up of the schema number is answered once the record was fetched. -/
def residue : Except StoreError (Option Json) :=
  (backend residueRequest (backend fetchRequest state).2).1

def beyondResidue : σ := (backend residueRequest (backend fetchRequest state).2).2

def glances : List (Exchange σ) :=
  [backend.exchange fetchRequest state,
    backend.exchange residueRequest (backend fetchRequest state).2]

end Residue

variable {backend : Backend σ} {state : σ} {record : VersionRecord}

theorem runs_find_of_recorded (recorded : recordOf (backend fetchRequest state).1 = .ok record) :
    (Action.withError MigrationError.store Bookkeeping.record?).Runs backend state
      (.ok (some record)) [backend.exchange fetchRequest state] (backend fetchRequest state).2 := by
  have fetched := (Action.Runs.getAs backend VersionRecord.ofJson bucket recordKey state).withError
    MigrationError.store
  rw [recordOf] at recorded
  split at recorded
  · cases recorded
  · cases recorded
  · next known =>
      cases recorded
      rw [known] at fetched
      exact fetched

theorem runs_of_recorded (recorded : recordOf (backend fetchRequest state).1 = .ok record) :
    bridge.Runs backend state
      (((residue backend state).map fun _ => .alreadyVersioned).mapError .store)
      (glances backend state) (beyondResidue backend state) := by
  have looked := (Action.Runs.contains backend bucket versionKey
    (backend fetchRequest state).2).withError MigrationError.store
  refine (runs_find_of_recorded recorded).bind_ok ?_
  rw [residue]
  cases response : (backend residueRequest (backend fetchRequest state).2).1 with
  | error error =>
      rw [response] at looked
      exact looked.bind_error _
  | ok found =>
      rw [response] at looked
      exact looked.bind_ok (.pure _ _)

end Legacy

/-! ## Migrations beside a residue -/

namespace Migrator

open Legacy

variable {migrator : Migrator} {target : String} {version : Version} {record : VersionRecord}

section Runs

variable {backend : Backend σ} {state : σ}

theorem run_of_legible {found : Option Json} (valid : Version.read target = .ok version)
    (recorded : recordOf (backend fetchRequest state).1 = .ok record)
    (legible : residue backend state = .ok found) :
    (migrator.run target).run backend state =
      (((migrator.registry.run target).run backend (beyondResidue backend state)).1.map
          (⟨.existing, ·⟩),
        ((migrator.registry.run target).run backend (beyondResidue backend state)).2) := by
  have bridged := runs_of_recorded recorded
  rw [legible] at bridged
  have had : (migrator.bootstrap version).Runs backend state (.ok .existing)
      (glances backend state ++ []) (beyondResidue backend state) :=
    bridged.bind_ok (.pure _ _)
  exact (runs_of_bootstrap valid had (Action.Runs.total _ _ _)).run_eq

theorem run_of_illegible {error : StoreError} (valid : Version.read target = .ok version)
    (recorded : recordOf (backend fetchRequest state).1 = .ok record)
    (illegible : residue backend state = .error error) :
    (migrator.run target).run backend state =
      (.error (.store error), beyondResidue backend state) := by
  have bridged := runs_of_recorded recorded
  rw [illegible] at bridged
  exact run_of_bridge_error valid bridged.run_eq

theorem run_of_invalid {cause : VersionError} (invalid : Version.read target = .error cause) :
    (migrator.run target).run backend state = (.error (.invalidTarget target cause), state) := by
  have refused : (Action.ofResult (Registry.parseTarget target)).run backend state =
      (.error (.invalidTarget target cause), state) :=
    congrArg (·, state) (Registry.parseTarget_error invalid)
  exact Action.run_bind_of_error refused _

end Runs

section Alike

variable {storage : Storage σ α} {one other : Disturbance φ} {left right : φ × σ}

theorem avoids_fetch : fetchRequest.Avoids Legacy.Place :=
  Request.avoids_get fun inside => absurd inside.2 (by decide)

theorem standAlike_beyondResidue (only : storage.Local)
    (patterns : Disturbance.AgreeBeyond Legacy.Place one other)
    (alike : storage.StandAlike Legacy.Place left right) :
    storage.StandAlike Legacy.Place (beyondResidue (storage.backend.disturbed one) left)
      (beyondResidue (storage.backend.disturbed other) right) := by
  have fetched := only.standAlike patterns alike avoids_fetch.1
  have harmless : residueRequest.isWrite = false := rfl
  exact fetched.looked patterns harmless

theorem objects_beyondResidue (storage : Storage σ α) (state : σ) :
    storage.objects (beyondResidue storage.backend state) = storage.objects state := by
  funext place label
  have looked : storage.objects (beyondResidue storage.backend state) place label =
      storage.objects (storage.backend fetchRequest state).2 place label :=
    storage.objects_of_untouched residueRequest _ fun _ => rfl
  exact looked.trans (congrFun₂ Storage.objects_fetch place label)

structure EndsAlike (storage : Storage σ α) (one other : Disturbance φ) (migrator : Migrator)
    (target : String) (left right : φ × σ) : Prop where
  result : ((migrator.run target).run (storage.backend.disturbed one) left).1 =
    ((migrator.run target).run (storage.backend.disturbed other) right).1
  after : storage.StandAlike Legacy.Place
    ((migrator.run target).run (storage.backend.disturbed one) left).2
    ((migrator.run target).run (storage.backend.disturbed other) right).2

theorem endsAlike_of_legible (only : storage.Local)
    (keepsOut : migrator.registry.KeepsOutOf bucket)
    (patterns : Disturbance.AgreeBeyond Legacy.Place one other)
    (alike : storage.StandAlike Legacy.Place left right)
    (recorded : recordOf (storage.backend.disturbed one fetchRequest left).1 = .ok record)
    {found another : Option Json} (legible : residue (storage.backend.disturbed one) left = .ok found)
    (legibleToo : residue (storage.backend.disturbed other) right = .ok another) :
    EndsAlike storage one other migrator target left right := by
  have recordedToo := recorded
  rw [only.answered patterns alike avoids_fetch.1 avoids_fetch.2] at recordedToo
  cases valid : Version.read target with
  | error cause =>
      constructor
      · rw [run_of_invalid valid, run_of_invalid valid]
      · rw [run_of_invalid valid, run_of_invalid valid]
        exact alike
  | ok version =>
      have ran := Program.runsAlike_of_overlooks only patterns
        (Action.overlooks_of_keepsTo (Registry.avoids_run keepsOut target))
        (standAlike_beyondResidue only patterns alike)
      have results : ((migrator.registry.run target).run (storage.backend.disturbed one)
          (beyondResidue (storage.backend.disturbed one) left)).1 =
            ((migrator.registry.run target).run (storage.backend.disturbed other)
              (beyondResidue (storage.backend.disturbed other) right)).1 := ran.result
      have after : storage.StandAlike Legacy.Place
          ((migrator.registry.run target).run (storage.backend.disturbed one)
            (beyondResidue (storage.backend.disturbed one) left)).2
          ((migrator.registry.run target).run (storage.backend.disturbed other)
            (beyondResidue (storage.backend.disturbed other) right)).2 := ran.after
      constructor
      · rw [run_of_legible valid recorded legible, run_of_legible valid recordedToo legibleToo,
          results]
      · rw [run_of_legible valid recorded legible, run_of_legible valid recordedToo legibleToo]
        exact after

end Alike

/-- Beside a record a migration is told apart by nothing but whether the schema number can be
looked up: the bridge writes nothing, stores that differ in the legacy keys come to the same if
it can, and the migration ends with the error of the look-up if it cannot. -/
theorem residue_overlooked {storage : Storage σ α} (only : storage.Local)
    (keepsOut : migrator.registry.KeepsOutOf bucket) (target : String) :
    (∀ (τ : Type) (backend : Backend τ) (state : τ) (record : VersionRecord),
      recordOf (backend fetchRequest state).1 = .ok record →
        bridge.Runs backend state
          (((residue backend state).map fun _ => .alreadyVersioned).mapError .store)
          (glances backend state) (beyondResidue backend state)) ∧
    ∀ (φ : Type) (one other : Disturbance φ), Disturbance.AgreeBeyond Legacy.Place one other →
      ∀ left right : φ × σ, storage.StandAlike Legacy.Place left right →
        ∀ record, recordOf (storage.backend.disturbed one fetchRequest left).1 = .ok record →
          (∀ found another, residue (storage.backend.disturbed one) left = .ok found →
            residue (storage.backend.disturbed other) right = .ok another →
              EndsAlike storage one other migrator target left right) ∧
          ∀ error version, residue (storage.backend.disturbed one) left = .error error →
            Version.read target = .ok version →
              ∃ final, (migrator.run target).run (storage.backend.disturbed one) left =
                  (.error (.store error), final) ∧
                storage.objects final.2 = storage.objects left.2 := by
  constructor
  · intro τ backend state record recorded
    exact runs_of_recorded recorded
  · intro φ one other patterns left right alike record recorded
    constructor
    · intro found another legible legibleToo
      exact endsAlike_of_legible only keepsOut patterns alike recorded legible legibleToo
    · intro error version illegible valid
      exact ⟨_, run_of_illegible valid recorded illegible,
        objects_beyondResidue (storage.disturbed one) left⟩

/-! ## A residue of each kind -/

def failingLookUps : Disturbance Unit := fun request _ =>
  match request with
  | .get place label =>
      (if place = bucket ∧ label ∈ [editionKey, instanceKey] then
        some (.backend (.reported "disk full")) else none, ())
  | _ => (none, ())

theorem undisturbed_agreeBeyond :
    Disturbance.AgreeBeyond Legacy.Place undisturbed failingLookUps where
  later request _ := by cases request <;> rfl
  decision request _ avoids := by
    cases request with
    | get place label =>
        have outside : ¬ (place = bucket ∧ label ∈ [editionKey, instanceKey]) := by
          rintro ⟨rfl, among⟩
          exact avoids.1 bucket label ⟨rfl, rfl⟩ ⟨rfl, List.mem_cons_of_mem versionKey among⟩
        exact (if_neg outside).symm
    | _ => rfl

abbrev residual (record : VersionRecord) (value : Json) : Buckets Json :=
  (Memory.versioned record).write bucket versionKey value

/-- A schema number that is no number, and a store where the other keys cannot be looked up. -/
theorem residue_overlooked_garbage :
    let migrator : Migrator := ⟨Releases.registry, ⟨1⟩, "01J0000000000000000000000B"⟩
    let record : VersionRecord := ⟨"2.9.0", 0, ⟨1⟩, "01J0000000000000000000000A"⟩
    Memory.storage.Local ∧ migrator.registry.KeepsOutOf bucket ∧
      EndsAlike Memory.storage undisturbed failingLookUps migrator "2.15.0"
        ((), residual record (.string "garbage")) ((), Memory.versioned record) := by
  intro migrator record
  have keepsOut : migrator.registry.KeepsOutOf bucket := Releases.registry_routine.keepsOut
  have alike : Memory.storage.StandAlike Legacy.Place ((), residual record (.string "garbage"))
      ((), Memory.versioned record) := by
    refine ⟨rfl, fun place label shown => ?_⟩
    apply Buckets.read_write_of_ne
    by_contra inside
    rw [not_or, not_ne_iff, not_ne_iff] at inside
    rcases inside with ⟨rfl, rfl⟩
    exact shown ⟨rfl, List.mem_cons_self⟩
  have overlooked := (residue_overlooked Memory.storage_local keepsOut "2.15.0").2 Unit undisturbed
    failingLookUps undisturbed_agreeBeyond _ _ alike record rfl
  have legible : residue (Memory.storage.backend.disturbed undisturbed)
      ((), residual record (.string "garbage")) = .ok (some (.string "garbage")) := rfl
  have legibleToo : residue (Memory.storage.backend.disturbed failingLookUps)
      ((), Memory.versioned record) = .ok none := rfl
  exact ⟨Memory.storage_local, keepsOut, overlooked.1 _ _ legible legibleToo⟩

abbrev recordedTables (record : VersionRecord) : Buckets String :=
  Buckets.empty.write bucket recordKey record.toJson.compact

abbrev residualTables (record : VersionRecord) (text : String) : Buckets String :=
  (recordedTables record).write bucket versionKey text

theorem inTheWay_of_unreadable (migrator : Migrator) (record : VersionRecord) {text : String}
    (unreadable : (Database.decode text).toOption.isNone = true)
    (valid : Version.read target = .ok version) :
    Database.tablesStorage.record (residualTables record text) = .ok record ∧
      bridge.run Database.tablesBackend (recordedTables record) =
        (.ok .alreadyVersioned, recordedTables record) ∧
      ∃ error, bridge.run Database.tablesBackend (residualTables record text) =
          (.error (.store error), residualTables record text) ∧
        (migrator.run target).run Database.tablesBackend (residualTables record text) =
          (.error (.store error), residualTables record text) := by
  have faithful := Database.tablesStorage_faithful
  have stored : Database.tablesStorage.recordObject (recordedTables record) =
      some record.toJson.compact := Buckets.read_write_same _ _ _ _
  have storedBeside : Database.tablesStorage.recordObject (residualTables record text) =
      some record.toJson.compact :=
    (Buckets.read_write_of_ne _ _ (.inr (by decide))).trans stored
  have absent : Database.tablesStorage.read (recordedTables record) bucket versionKey =
      .ok none := by
    rw [faithful.read_eq]
    rfl
  have clear := faithful.bridge_of_versioned (Storage.entry_of_recorded stored) absent
  cases decoded : Database.decode text with
  | ok value =>
      rw [decoded] at unreadable
      cases unreadable
  | error fault =>
      have illegible : Database.tablesStorage.read (residualTables record text) bucket versionKey =
          .error (.encoding bucket versionKey fault) :=
        Database.tablesStorage.read_of_undecoded (Buckets.read_write_same _ _ _ _) decoded
      have blocked := faithful.bridge_of_illegible (Storage.entry_of_recorded storedBeside) illegible
      exact ⟨Storage.record_of_encoded storedBeside, clear, _, blocked,
        run_of_bridge_error valid blocked⟩

/-- The text of half a pair of surrogates. -/
def loneSurrogate : String := "\"\\ud800\""

/-- Half a pair of surrogates is text, but it does not read back. -/
theorem residue_inTheWay :
    let migrator : Migrator := ⟨Releases.registry, ⟨1⟩, "01J0000000000000000000000B"⟩
    let record : VersionRecord := ⟨"2.9.0", 0, ⟨1⟩, "01J0000000000000000000000A"⟩
    let beside := residualTables record loneSurrogate
    Json.isText loneSurrogate = true ∧ Database.tablesStorage.record beside = .ok record ∧
      bridge.run Database.tablesBackend (recordedTables record) =
        (.ok .alreadyVersioned, recordedTables record) ∧
      ∃ error, bridge.run Database.tablesBackend beside = (.error (.store error), beside) ∧
        (migrator.run "2.16.0").run Database.tablesBackend beside =
          (.error (.store error), beside) := by
  intro migrator record beside
  have isText : Json.isText loneSurrogate = true := by decide +kernel
  have unreadable : (Database.decode loneSurrogate).toOption.isNone = true := by decide +kernel
  have valid : Version.read "2.16.0" = .ok (.release 2 16 0) := rfl
  exact ⟨isText, inTheWay_of_unreadable migrator record unreadable valid⟩

end Migrator

end StoreMigration
