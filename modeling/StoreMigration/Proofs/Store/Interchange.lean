import StoreMigration.Proofs.Store.Sparing
import StoreMigration.Proofs.Store.Tables
import StoreMigration.Proofs.Text.ByteOrder
import Mathlib.Data.List.Sort

/-! One store in place of another. A faithful storage `Mirrors` the store that keeps values
when it holds the stored forms of the same objects. Such stores give equal answers to every
call and mirror each other after it, so no program can tell them apart. -/

namespace StoreMigration

/-! ## Stores that hold the same -/

def Objects.encoded (encode : Json → α) (values : Objects Json) : Objects α :=
  fun bucket key => (values bucket key).map encode

theorem Objects.encoded_set (encode : Json → α) (values : Objects Json) (bucket key : String)
    (value : Option Json) :
    (values.set bucket key value).encoded encode =
      (values.encoded encode).set bucket key (value.map encode) := by
  funext otherBucket otherKey
  by_cases same : otherBucket = bucket ∧ otherKey = key <;> simp [encoded, set, same]

theorem Request.effect_encoded (encode : Json → α) (request : Request) (values : Objects Json) :
    request.effect encode (values.encoded encode) = (request.effect id values).encoded encode := by
  cases request with
  | update bucket key value =>
      exact (Objects.encoded_set encode values bucket key (some value)).symm
  | delete bucket key => exact (Objects.encoded_set encode values bucket key none).symm
  | _ => rfl

def Request.Fits (capacity : Json.Capacity) : Request → Prop
  | update _ _ value => capacity.Held value
  | _ => True

structure Storage.Mirrors (storage : Storage σ α) (capacity : Json.Capacity) (state : σ)
    (values : Buckets Json) : Prop where
  shown : storage.objects state = Objects.encoded storage.encode values.read
  held : ∀ {bucket key : String} {value : Json},
    values.read bucket key = some value → capacity.Held value

theorem Memory.granted (request : Request) (buckets : Buckets Json) :
    ∃ answer, (backend request buckets).1 = .ok answer := by
  cases request <;> exact ⟨_, rfl⟩

theorem held_of_effect {capacity : Json.Capacity} {request : Request}
    (fits : request.Fits capacity) {values : Objects Json}
    (held : ∀ {bucket key : String} {value : Json},
      values bucket key = some value → capacity.Held value)
    {bucket key : String} {value : Json} (found : request.effect id values bucket key = some value) :
    capacity.Held value := by
  have unwritten {otherBucket otherKey : String} {written : Option Json}
      (writable : ∀ value, written = some value → capacity.Held value)
      (found : values.set otherBucket otherKey written bucket key = some value) :
      capacity.Held value := by
    rw [Objects.set] at found
    split at found
    · exact writable value found
    · exact held found
  cases request with
  | update otherBucket otherKey written =>
      refine unwritten (fun value same => ?_) found
      cases same
      exact fits
  | delete otherBucket otherKey => exact unwritten (fun value same => by cases same) found
  | _ => exact held found

namespace Storage

section Mirrors

variable {storage : Storage (Buckets α) α} {capacity : Json.Capacity} {state : Buckets α}
  {values : Buckets Json}

theorem Mirrors.read_eq (faithful : storage.Faithful capacity)
    (mirrors : storage.Mirrors capacity state values) (bucket key : String) :
    storage.read state bucket key = .ok (values.read bucket key) := by
  rw [read, Objects.answer, mirrors.shown, Objects.encoded]
  cases found : values.read bucket key with
  | none => rfl
  | some value =>
      simp only [Option.map_some, faithful.decode_held (mirrors.held found)]

theorem Mirrors.keys_eq (faithful : storage.Faithful capacity)
    (mirrors : storage.Mirrors capacity state values) (bucket : String) :
    state.keys bucket = values.keys bucket := by
  have ordered : Std.Antisymm (α := String) (· < ·) :=
    ⟨fun left right less greater => (String.lt_asymm less greater).elim⟩
  have irreflexive : Std.Irrefl (α := String) (· < ·) := ⟨String.lt_irrefl⟩
  have left := state.keys_listed bucket
  have right := values.keys_listed bucket
  refine left.1.eq_of_mem_iff right.1 fun key => ?_
  have sameObject : state.read bucket key = (values.read bucket key).map storage.encode := by
    rw [← faithful.shown, mirrors.shown, Objects.encoded]
  rw [left.2, right.2, sameObject, Option.isSome_map]

theorem Mirrors.call (faithful : storage.Faithful capacity)
    (mirrors : storage.Mirrors capacity state values) {request : Request}
    (fits : request.Fits capacity) :
    (storage.backend request state).1 = (Memory.backend request values).1 ∧
      storage.Mirrors capacity (storage.backend request state).2
        (Memory.backend request values).2 := by
  have answered : (storage.backend request state).1 = (Memory.backend request values).1 := by
    cases request with
    | ensureBucket bucket => rw [faithful.ensure_eq]; rfl
    | get bucket key => rw [faithful.get_eq]; exact mirrors.read_eq faithful bucket key
    | update bucket key value => rw [faithful.update_eq bucket key state fits]; rfl
    | delete bucket key => rw [faithful.delete_eq]; rfl
    | listKeys bucket =>
        rw [faithful.list_eq]
        exact congrArg Except.ok (mirrors.keys_eq faithful bucket)
  rcases Memory.granted request values with ⟨answer, granted⟩
  refine ⟨answered, ?_, ?_⟩
  · rw [storage.granted (answered.trans granted), mirrors.shown, Memory.read_effect]
    exact request.effect_encoded storage.encode values.read
  · intro bucket key value found
    rw [Memory.read_effect] at found
    exact held_of_effect fits mirrors.held found

theorem Mirrors.run (faithful : storage.Faithful capacity) {program : Program β}
    (keeps : program.KeepsTo (Request.Fits capacity))
    (mirrors : storage.Mirrors capacity state values) :
    (program.run storage.backend state).1 = (program.run Memory.backend values).1 ∧
      storage.Mirrors capacity (program.run storage.backend state).2
        (program.run Memory.backend values).2 := by
  induction program generalizing state values with
  | done result => exact ⟨rfl, mirrors⟩
  | call request next induction =>
      have made := mirrors.call faithful keeps.1
      rw [Program.run_call, Program.run_call, made.1]
      exact induction _ (keeps.2 _) made.2

end Mirrors

end Storage

/-! ## Sequences of calls -/

abbrev Answered := (request : Request) × Response request

def Program.sequence : List Request → Program (List Answered)
  | [] => .done []
  | request :: rest =>
      .call request fun response =>
        (sequence rest).bind fun answers => .done (⟨request, response⟩ :: answers)

theorem Program.keepsTo_sequence {allowed : Request → Prop} {requests : List Request}
    (permitted : ∀ request ∈ requests, allowed request) :
    (sequence requests).KeepsTo allowed := by
  induction requests with
  | nil => trivial
  | cons request rest induction =>
      refine ⟨permitted request List.mem_cons_self, fun response => keepsTo_bind ?_ fun _ => trivial⟩
      exact induction fun request member => permitted request (List.mem_cons_of_mem _ member)

theorem Program.answered_of_mem_sequence {backend : Backend σ} {requests : List Request} {state : σ}
    {answered : Answered} (member : answered ∈ ((sequence requests).run backend state).1) :
    ∃ reached, answered.2 = (backend answered.1 reached).1 := by
  induction requests generalizing state with
  | nil => cases member
  | cons request rest induction =>
      rw [sequence, run_call, run_bind, run_done] at member
      rcases List.mem_cons.mp member with equal | member
      · exact ⟨state, by rw [equal]⟩
      · exact induction member

/-! ## Stores that start empty -/

def Answered.InOrder (answered : Answered) : Prop :=
  ∀ {bucket : String} {keys : List String},
    answered = ⟨.listKeys bucket, .ok keys⟩ → keys.Pairwise fun left right =>
      Text.Utf8.encode left.toList < Text.Utf8.encode right.toList

theorem Memory.inOrder (request : Request) (buckets : Buckets Json) :
    Answered.InOrder ⟨request, (backend request buckets).1⟩ := by
  rintro bucket keys same
  cases same
  exact (buckets.keys_listed bucket).1.imp Text.Utf8.encode_lt_of_lt

namespace Database

theorem mirrors_empty : tablesStorage.Mirrors capacity Buckets.empty Buckets.empty where
  shown := rfl
  held found := by cases found

/-- A database and the store that keeps values, both empty at first, give the same answers to
any sequence of calls that writes no fractions and nests less than 128 deep. No call fails, and
keys are listed by their bytes. -/
theorem answers_as_memory (requests : List Request)
    (storable : ∀ request ∈ requests, request.Fits capacity)
    {database : Database} (empty : database.tables = some Buckets.empty) :
    ((Program.sequence requests).run backend database).1 =
        ((Program.sequence requests).run Memory.backend Buckets.empty).1 ∧
      ∀ answered ∈ ((Program.sequence requests).run Memory.backend Buckets.empty).1,
        (∃ answer, answered.2 = .ok answer) ∧ answered.InOrder := by
  constructor
  · rw [run_of_tables empty]
    exact (mirrors_empty.run tablesStorage_faithful (Program.keepsTo_sequence storable)).1
  · rintro ⟨request, response⟩ member
    rcases Program.answered_of_mem_sequence member with ⟨reached, answered⟩
    dsimp only at answered
    subst answered
    exact ⟨Memory.granted request reached, Memory.inOrder request reached⟩

/-- Two keys whose order by their bytes is not the one of their halves in 16 bits. -/
def twoKeys : List Request :=
  [.update "notes" "😀" (.object [("z", .integer 1), ("a", .array [.string "\x00\""])]),
    .update "notes" "～" .null, .get "notes" "😀", .delete "none" "absent",
    .listKeys "notes"]

theorem answers_as_memory_twoKeys :
    (∀ request ∈ twoKeys, request.Fits capacity) ∧
    ∃ database, migrateLayout blank = .ok database ∧ database.tables = some Buckets.empty ∧
    ((Program.sequence twoKeys).run backend database).1 =
        ((Program.sequence twoKeys).run Memory.backend Buckets.empty).1 ∧
      ∀ answered ∈ ((Program.sequence twoKeys).run Memory.backend Buckets.empty).1,
        (∃ answer, answered.2 = .ok answer) ∧ answered.InOrder := by
  have storable : ∀ request ∈ twoKeys, request.Fits capacity := by
    simp [twoKeys, Request.Fits, capacity, Json.FloatFree, Json.FloatFreeFields,
      Json.FloatFreeItems, Json.WellFormed, Json.WellFormedFields, Json.WellFormedItems,
      Json.integer, Json.JsonNumberFits, Json.depth, Json.depthOfFields, Json.depthOfItems]
  exact ⟨storable, _, rfl, rfl, answers_as_memory twoKeys storable rfl⟩

end Database

end StoreMigration
