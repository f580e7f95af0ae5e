import StoreMigration.Proofs.Json.CompactText
import StoreMigration.Proofs.Store.Database
import StoreMigration.Proofs.Store.Faithful

/-! Databases that keep what they are given. Tables are faithful to every value without
fractions that they can read back, and a database with tables that refuses nothing does
what its tables do. A database that has no tables or refuses changes stays as it is. -/

namespace StoreMigration

/-! ## Calls that change nothing -/

namespace Buckets

theorem ensure_of_has {buckets : Buckets α} {bucket : String} (present : buckets.Has bucket) :
    buckets.ensure bucket = buckets := by
  apply ext_read
  · intro other
    rw [has_ensure_iff]
    constructor
    · rintro (rfl | has)
      · exact present
      · exact has
    · exact .inr
  · exact read_ensure_eq buckets bucket

theorem has_delete_iff (buckets : Buckets α) (bucket key other : String) :
    (buckets.delete bucket key).Has other ↔ buckets.Has other := by
  rw [delete]
  split
  · rfl
  · next objects found =>
      rw [has_insert_iff]
      constructor
      · rintro (rfl | has)
        · rw [Has, found]
          rfl
        · exact has
      · exact .inr

theorem delete_of_absent {buckets : Buckets α} {bucket key : String}
    (absent : buckets.read bucket key = none) : buckets.delete bucket key = buckets := by
  apply ext_read
  · exact has_delete_iff buckets bucket key
  · funext otherBucket otherKey
    by_cases same : otherBucket = bucket ∧ otherKey = key
    · rcases same with ⟨rfl, rfl⟩
      rw [read_delete_same, absent]
    · exact read_delete_of_ne buckets (Classical.not_and_iff_not_or_not.mp same)

end Buckets

namespace Program

theorem run_snd_of_fixed {backend : Backend σ} {state : σ}
    (fixed : ∀ request, (backend request state).2 = state) (program : Program α) :
    (program.run backend state).2 = state := by
  induction program with
  | done result => rfl
  | call request next induction =>
      rw [run_call, fixed request]
      exact induction _

end Program

namespace Database

/-! ## Tables -/

def capacity : Json.Capacity where
  Held value := value.FloatFree ∧ value.WellFormed ∧ value.depth < 128
  Within value := value.FloatFree ∧ value.WellFormed ∧ value.depth < 127
  held_object_iff fields := by
    have shallow : (Json.object fields).depth < 128 ↔ ∀ field ∈ fields, field.2.depth < 127 := by
      rw [Json.depth, Nat.add_lt_add_iff_right, Json.depthOfFields_lt_iff fields (by decide)]
    simp only [shallow, Json.FloatFree, Json.WellFormed, Json.floatFreeFields_iff,
      Json.wellFormedFields_iff]
    constructor
    · rintro ⟨floatFree, ⟨distinct, wellFormed⟩, shallow⟩
      exact ⟨distinct, fun field member =>
        ⟨floatFree field member, wellFormed field member, shallow field member⟩⟩
    · rintro ⟨distinct, within⟩
      exact ⟨fun field member => (within field member).1,
        ⟨distinct, fun field member => (within field member).2.1⟩,
        fun field member => (within field member).2.2⟩
  held_of_modest modest := ⟨modest.1, modest.2.1, Nat.lt_of_le_of_lt modest.2.2 (by decide)⟩
  within_of_modest modest := ⟨modest.1, modest.2.1, Nat.lt_of_le_of_lt modest.2.2 (by decide)⟩

theorem tablesStorage_faithful : tablesStorage.Faithful capacity where
  shown := rfl
  ensure_eq _ _ := rfl
  get_eq bucket key tables := congrArg (·, tables) (answer_read tables bucket key).symm
  update_eq bucket key {value} tables held := by
    rcases held with ⟨floatFree, wellFormed, shallow⟩
    have nested : value.depth ≤ Json.textPolicy.nesting := by
      show value.depth ≤ 1000
      omega
    have isText : Json.isText value.compact = true := Json.isText_compact floatFree wellFormed nested
    show writeText bucket key value.compact tables = _
    rw [writeText, if_pos isText]
    rfl
  delete_eq _ _ _ := rfl
  list_eq _ _ := rfl
  decode_held held := decode_compact held.1 held.2.1 held.2.2

/-! ## Databases with tables -/

theorem run_of_tables {database : Database} {tables : Buckets String}
    (present : database.tables = some tables) (program : Program α) :
    program.run backend database = ((program.run tablesBackend tables).1,
      { database with tables := some (program.run tablesBackend tables).2 }) := by
  induction program generalizing database tables with
  | done result =>
      rw [Program.run_done, Program.run_done, ← present]
  | call request next induction =>
      rw [Program.run_call, backend_of_tables present request, Program.run_call]
      exact induction _ rfl

/-! ## Databases that stay as they are -/

theorem run_of_missing {database : Database} (missing : database.tables = none)
    (program : Program α) : (program.run backend database).2 = database := by
  apply Program.run_snd_of_fixed
  intro request
  rw [backend_of_missing missing]

theorem backend_fixed {request : Request} {database : Database}
    (unchanging : database.changes request = false) : (backend request database).2 = database := by
  cases present : database.tables with
  | none => rw [backend_of_missing present]
  | some tables =>
      have unchanged : (tablesBackend request tables).2 = tables := by
        cases request with
        | get bucket key => rfl
        | listKeys bucket => rfl
        | update bucket key value => cases unchanging
        | ensureBucket bucket =>
            have has : tables.Has bucket := by
              simpa [changes, stored, present, Buckets.Has, Option.isSome_iff_ne_none]
                using unchanging
            exact Buckets.ensure_of_has has
        | delete bucket key =>
            have absent : tables.read bucket key = none := by
              simpa [changes, stored, present] using unchanging
            exact Buckets.delete_of_absent absent
      rw [backend_of_tables present, unchanged, ← present]

theorem changes_of_unrefused {refusal : Refusal} {request : Request} {database : Database}
    (unrefused : refusal.refuses database request = false) : database.changes request = false := by
  cases refusal with
  | changes => exact unrefused
  | writes => cases request <;> first | rfl | cases unrefused

theorem guardedBackend_fixed (refusal : Refusal) (request : Request) (database : Database) :
    (guardedBackend refusal request database).2 = database := by
  rw [guardedBackend]
  split
  · rfl
  · next unrefused => exact backend_fixed (changes_of_unrefused (Bool.eq_false_iff.mpr unrefused))

end Database

def Site.Grants (site : Site) (database : Database) : Prop :=
  site.refusal = none ∧ database.tables.isSome = true

theorem Site.run_of_grants {site : Site} {database : Database} (grants : site.Grants database)
    (program : Program α) :
    program.run site.backend database = ((program.run Database.tablesBackend database.stored).1,
      { database with tables := some (program.run Database.tablesBackend database.stored).2 }) := by
  rcases Option.isSome_iff_exists.mp grants.2 with ⟨tables, present⟩
  rw [backend, grants.1, Database.stored, present]
  exact Database.run_of_tables present program

theorem Site.run_of_not_grants {site : Site} {database : Database}
    (refuses : ¬ site.Grants database) (program : Program α) :
    (program.run site.backend database).2 = database := by
  rw [backend]
  cases restricted : site.refusal with
  | some refusal =>
      apply Program.run_snd_of_fixed
      intro request
      exact Database.guardedBackend_fixed refusal request database
  | none =>
      cases present : database.tables with
      | none => exact Database.run_of_missing present program
      | some tables => exact absurd ⟨restricted, by rw [present]; rfl⟩ refuses

end StoreMigration
