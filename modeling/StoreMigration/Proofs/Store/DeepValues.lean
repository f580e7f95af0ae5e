import StoreMigration.Proofs.Json.NestingLimit
import StoreMigration.Proofs.Store.Tables

/-! What a database gives back of what it has accepted. A value is accepted if its text is JSON
text, for which it may be nested 1000 deep, and it is given back if its text reads as a value,
for which it may be nested 127 deep. What lies between is stored, and every look-up of it
fails. -/

namespace StoreMigration

namespace Database

variable {bucket key : String} {value : Json}

theorem decode_of_deep (floatFree : value.FloatFree) (wellFormed : value.WellFormed)
    (deep : 128 ≤ value.depth) :
    ∃ error, decode value.compact = .error (.unreadable error) ∧ error.fault = .nestedTooDeep := by
  rcases Json.read_compact_of_deep Json.valuePolicy floatFree wellFormed deep with
    ⟨error, refused, fault⟩
  refine ⟨error, ?_, fault⟩
  rw [decode, refused]

theorem update_of_text (isText : Json.isText value.compact = true) (tables : Buckets String) :
    tablesBackend (.update bucket key value) tables =
      (.ok (), tables.write bucket key value.compact) := by
  show writeText bucket key value.compact tables = _
  rw [writeText, if_pos isText]

theorem update_of_not_text (notText : ¬ Json.isText value.compact = true)
    (tables : Buckets String) :
    tablesBackend (.update bucket key value) tables =
      (.error (.backend (.engine textRefused)), tables.ensure bucket) := by
  show writeText bucket key value.compact tables = _
  rw [writeText, if_neg notText]

end Database

namespace Site

open Database

variable {site : Site} {database : Database} {bucket key : String}

theorem backend_of_grants (grants : site.Grants database) (request : Request) :
    site.backend request database = ((tablesBackend request database.stored).1,
      { database with tables := some (tablesBackend request database.stored).2 }) :=
  site.run_of_grants grants (.call request .done)

theorem update_of_not_grants (refuses : ¬ site.Grants database) (bucket key : String)
    (value : Json) :
    ∃ error, site.backend (.update bucket key value) database = (.error error, database) := by
  rw [backend]
  cases restricted : site.refusal with
  | some refusal =>
      have refused : refusal.refuses database (.update bucket key value) = true := by
        cases refusal <;> rfl
      exact ⟨_, if_pos refused⟩
  | none =>
      cases present : database.tables with
      | none => exact ⟨_, backend_of_missing present _⟩
      | some tables => exact absurd ⟨restricted, by rw [present]; rfl⟩ refuses

theorem update_of_shallow (grants : site.Grants database) (bucket key : String) {value : Json}
    (floatFree : value.FloatFree) (wellFormed : value.WellFormed) (shallow : value.depth ≤ 1000) :
    site.backend (.update bucket key value) database = (.ok (),
      { database with tables := some (database.stored.write bucket key value.compact) }) := by
  have isText : Json.isText value.compact = true :=
    (Json.isText_compact_iff floatFree wellFormed).mpr shallow
  rw [site.backend_of_grants grants, update_of_text isText]

theorem get_of_tables (unrefused : site.refusal = none) (bucket key : String)
    (tables : Buckets String) :
    (site.backend (.get bucket key) { database with tables := some tables }).1 =
      tablesStorage.read tables bucket key := by
  have grants : site.Grants { database with tables := some tables } := ⟨unrefused, rfl⟩
  rw [site.backend_of_grants grants]
  exact congrArg Prod.fst (tablesStorage_faithful.get_eq bucket key tables)

theorem get_of_deep (grants : site.Grants database) (bucket key : String) {value : Json}
    (floatFree : value.FloatFree) (wellFormed : value.WellFormed) (deep : 128 ≤ value.depth) :
    ∃ error, error.fault = .nestedTooDeep ∧
      (site.backend (.get bucket key)
        { database with tables := some (database.stored.write bucket key value.compact) }).1 =
          .error (.encoding bucket key (.unreadable error)) := by
  rcases decode_of_deep floatFree wellFormed deep with ⟨error, undecoded, fault⟩
  refine ⟨error, fault, ?_⟩
  rw [get_of_tables grants.1]
  exact tablesStorage.read_of_undecoded (Buckets.read_write_same _ _ _ _) undecoded

structure Handles (site : Site) (database : Database) (bucket key : String) (value : Json) :
    Prop where
  accepted_iff : (site.backend (.update bucket key value) database).1 = .ok () ↔
    site.Grants database ∧ value.depth ≤ 1000
  givenBack : (site.backend (.update bucket key value) database).1 = .ok () → value.depth < 128 →
    (site.backend (.get bucket key) (site.backend (.update bucket key value) database).2).1 =
      .ok (some value)
  lost : (site.backend (.update bucket key value) database).1 = .ok () → 128 ≤ value.depth →
    ∃ error, error.fault = .nestedTooDeep ∧
      (site.backend (.get bucket key) (site.backend (.update bucket key value) database).2).1 =
        .error (.encoding bucket key (.unreadable error))
  unchanged : ∀ error, (site.backend (.update bucket key value) database).1 = .error error →
    (site.backend (.update bucket key value) database).2.texts = database.texts

theorem handles_of_refused {value : Json} {error : StoreError} {after : Database}
    (refused : site.backend (.update bucket key value) database = (.error error, after))
    (unfit : ¬ (site.Grants database ∧ value.depth ≤ 1000)) (same : after.texts = database.texts) :
    site.Handles database bucket key value := by
  constructor
  · rw [refused]
    exact ⟨nofun, fun fit => absurd fit unfit⟩
  · intro accepted
    rw [refused] at accepted
    cases accepted
  · intro accepted
    rw [refused] at accepted
    cases accepted
  · intro _ _
    rw [refused]
    exact same

/-- A database accepts exactly the values that are nested at most 1000 deep, if it takes changes
at all; of these it gives back those that are nested less than 128 deep and no others; and what
it refuses changes no object. -/
theorem handles (site : Site) (database : Database) (bucket key : String) {value : Json}
    (floatFree : value.FloatFree) (wellFormed : value.WellFormed) :
    site.Handles database bucket key value := by
  by_cases grants : site.Grants database
  · by_cases shallow : value.depth ≤ 1000
    · have updated := update_of_shallow grants bucket key floatFree wellFormed shallow
      constructor
      · rw [updated]
        exact ⟨fun _ => ⟨grants, shallow⟩, fun _ => rfl⟩
      · intro _ readable
        rw [updated, get_of_tables grants.1]
        exact tablesStorage.read_of_decoded (Buckets.read_write_same _ _ _ _)
          (decode_compact floatFree wellFormed readable)
      · intro _ deep
        rw [updated]
        exact get_of_deep grants bucket key floatFree wellFormed deep
      · intro error failed
        rw [updated] at failed
        cases failed
    · have notText : ¬ Json.isText value.compact = true := fun isText =>
        shallow ((Json.isText_compact_iff floatFree wellFormed).mp isText)
      have refused := site.backend_of_grants grants (.update bucket key value)
      rw [update_of_not_text notText] at refused
      exact handles_of_refused refused (fun fit => shallow fit.2)
        (Buckets.read_ensure_eq database.stored bucket)
  · rcases update_of_not_grants grants bucket key value with ⟨error, refused⟩
    exact handles_of_refused refused (fun fit => grants fit.1) rfl

end Site

/-! ## Values at the limit -/

namespace Json

def nested : Nat → Json
  | 0 => .null
  | layers + 1 => .array [nested layers]

theorem depth_nested (layers : Nat) : (nested layers).depth = layers := by
  induction layers with
  | zero => rfl
  | succ layers induction =>
      rw [nested, depth, depthOfItems, depthOfItems, induction, Nat.max_zero]

theorem floatFree_nested (layers : Nat) : (nested layers).FloatFree := by
  induction layers with
  | zero => trivial
  | succ layers induction => exact ⟨induction, trivial⟩

theorem wellFormed_nested (layers : Nat) : (nested layers).WellFormed := by
  induction layers with
  | zero => trivial
  | succ layers induction => exact ⟨induction, trivial⟩

end Json

namespace Site

open Database

def untouched : Database :=
  ⟨[1], some Buckets.empty, .rollback⟩

theorem grants_untouched : transient.Grants untouched := ⟨rfl, rfl⟩

theorem handles_nested :
    (Json.nested 127).FloatFree ∧ (Json.nested 127).WellFormed ∧
      migrateLayout blank = .ok untouched ∧
      (transient.backend (.get "notes" "deep")
        (transient.backend (.update "notes" "deep" (Json.nested 127)) untouched).2).1 =
          .ok (some (Json.nested 127)) := by
  have floatFree := Json.floatFree_nested 127
  have wellFormed := Json.wellFormed_nested 127
  have depth := Json.depth_nested 127
  have handled := handles transient untouched "notes" "deep" floatFree wellFormed
  have accepted := handled.accepted_iff.mpr ⟨grants_untouched, by omega⟩
  exact ⟨floatFree, wellFormed, rfl, handled.givenBack accepted (by omega)⟩

/-- One container more, and the value is accepted but never given back. -/
theorem lost_nested :
    (Json.nested 128).FloatFree ∧ (Json.nested 128).WellFormed ∧
      migrateLayout blank = .ok untouched ∧
      (transient.backend (.update "notes" "deep" (Json.nested 128)) untouched).1 = .ok () ∧
      ∃ error, error.fault = .nestedTooDeep ∧
        (transient.backend (.get "notes" "deep")
          (transient.backend (.update "notes" "deep" (Json.nested 128)) untouched).2).1 =
            .error (.encoding "notes" "deep" (.unreadable error)) := by
  have floatFree := Json.floatFree_nested 128
  have wellFormed := Json.wellFormed_nested 128
  have depth := Json.depth_nested 128
  have updated := update_of_shallow grants_untouched "notes" "deep" floatFree wellFormed (by omega)
  have lost := get_of_deep grants_untouched "notes" "deep" floatFree wellFormed (by omega)
  rw [updated]
  exact ⟨floatFree, wellFormed, rfl, rfl, lost⟩

end Site

end StoreMigration
