import StoreMigration.Store.Disturbance
import StoreMigration.Store.Memory

/-! What every store promises about its calls. A `Storage` is a backend whose objects
can be looked at: a call that is refused leaves them alone, one that is granted changes
exactly the object it names, and what was written is read back. Nothing is said about
which calls are refused, so `Storage.disturbed`, under which any calls may fail, is a
storage again. -/

namespace StoreMigration

abbrev Objects (α : Type) := String → String → Option α

namespace Objects

def set (objects : Objects α) (bucket key : String) (stored : Option α) : Objects α :=
  fun otherBucket otherKey =>
    if otherBucket = bucket ∧ otherKey = key then stored else objects otherBucket otherKey

@[simp] theorem set_same (objects : Objects α) (bucket key : String) (stored : Option α) :
    objects.set bucket key stored bucket key = stored := by
  simp [set]

theorem set_of_ne (objects : Objects α) {bucket key otherBucket otherKey : String}
    (stored : Option α) (different : otherBucket ≠ bucket ∨ otherKey ≠ key) :
    objects.set bucket key stored otherBucket otherKey = objects otherBucket otherKey := by
  have apart : ¬ (otherBucket = bucket ∧ otherKey = key) := by
    rintro ⟨sameBucket, sameKey⟩
    rcases different with different | different
    · exact different sameBucket
    · exact different sameKey
  simp [set, apart]

def answer (decode : α → Except CodecFault Json) (objects : Objects α) (bucket key : String) :
    Except StoreError (Option Json) :=
  match objects bucket key with
  | none => .ok none
  | some stored =>
      match decode stored with
      | .ok value => .ok (some value)
      | .error fault => .error (.encoding bucket key fault)

end Objects

def Request.effect (encode : Json → α) (objects : Objects α) : Request → Objects α
  | ensureBucket _ => objects
  | get _ _ => objects
  | update bucket key value => objects.set bucket key (some (encode value))
  | delete bucket key => objects.set bucket key none
  | listKeys _ => objects

structure Storage (σ α : Type) where
  backend : Backend σ
  objects : σ → Objects α
  encode : Json → α
  decode : α → Except CodecFault Json
  refused : ∀ {request : Request} {state : σ} {error : StoreError},
    (backend request state).1 = .error error →
      objects (backend request state).2 = objects state
  granted : ∀ {request : Request} {state : σ} {answer : request.Answer},
    (backend request state).1 = .ok answer →
      objects (backend request state).2 = request.effect encode (objects state)
  found : ∀ {bucket key : String} {state : σ} {answer : Option Json},
    (backend (.get bucket key) state).1 = .ok answer →
      (objects state).answer decode bucket key = .ok answer
  listed : ∀ {bucket : String} {state : σ} {keys : List String},
    (backend (.listKeys bucket) state).1 = .ok keys →
      keys.Pairwise (· < ·) ∧ ∀ key, key ∈ keys ↔ (objects state bucket key).isSome = true
  decode_encode : ∀ {value : Json}, value.FloatFree → value.WellFormed → value.depth < 128 →
    decode (encode value) = .ok value

namespace Storage

/-- What a look-up that is not refused answers. -/
def read (storage : Storage σ α) (state : σ) (bucket key : String) :
    Except StoreError (Option Json) :=
  (storage.objects state).answer storage.decode bucket key

theorem read_congr (storage : Storage σ α) {state other : σ} {bucket key : String}
    (same : storage.objects state bucket key = storage.objects other bucket key) :
    storage.read state bucket key = storage.read other bucket key := by
  simp only [read, Objects.answer, same]

theorem read_of_decoded (storage : Storage σ α) {state : σ} {bucket key : String} {stored : α}
    {value : Json} (found : storage.objects state bucket key = some stored)
    (decoded : storage.decode stored = .ok value) :
    storage.read state bucket key = .ok (some value) := by
  simp only [read, Objects.answer, found, decoded]

theorem read_of_undecoded (storage : Storage σ α) {state : σ} {bucket key : String} {stored : α}
    {fault : CodecFault} (found : storage.objects state bucket key = some stored)
    (undecoded : storage.decode stored = .error fault) :
    storage.read state bucket key = .error (.encoding bucket key fault) := by
  simp only [read, Objects.answer, found, undecoded]

theorem read_of_encoded (storage : Storage σ α) {state : σ} {bucket key : String} {value : Json}
    (floatFree : value.FloatFree) (wellFormed : value.WellFormed) (shallow : value.depth < 128)
    (stored : storage.objects state bucket key = some (storage.encode value)) :
    storage.read state bucket key = .ok (some value) :=
  storage.read_of_decoded stored (storage.decode_encode floatFree wellFormed shallow)

theorem objects_of_untouched (storage : Storage σ α) (request : Request) (state : σ)
    {bucket key : String}
    (untouched : ∀ objects : Objects α,
      request.effect storage.encode objects bucket key = objects bucket key) :
    storage.objects (storage.backend request state).2 bucket key =
      storage.objects state bucket key := by
  cases response : (storage.backend request state).1 with
  | ok answer => rw [storage.granted response, untouched]
  | error error => rw [storage.refused response]

end Storage

/-! ## The store that keeps values -/

namespace Buckets

theorem read_ensure_eq (buckets : Buckets α) (bucket : String) :
    (buckets.ensure bucket).read = buckets.read := by
  funext otherBucket otherKey
  exact read_ensure buckets bucket otherBucket otherKey

theorem read_write_eq (buckets : Buckets α) (bucket key : String) (value : α) :
    (buckets.write bucket key value).read =
      Objects.set buckets.read bucket key (some value) := by
  funext otherBucket otherKey
  by_cases same : otherBucket = bucket ∧ otherKey = key
  · rcases same with ⟨rfl, rfl⟩
    simp
  · have apart := Classical.not_and_iff_not_or_not.mp same
    rw [Objects.set_of_ne _ _ apart]
    exact read_write_of_ne buckets value apart

theorem read_delete_eq (buckets : Buckets α) (bucket key : String) :
    (buckets.delete bucket key).read = Objects.set buckets.read bucket key none := by
  funext otherBucket otherKey
  by_cases same : otherBucket = bucket ∧ otherKey = key
  · rcases same with ⟨rfl, rfl⟩
    simp
  · have apart := Classical.not_and_iff_not_or_not.mp same
    rw [Objects.set_of_ne _ _ apart]
    exact read_delete_of_ne buckets apart

theorem keys_listed (buckets : Buckets α) (bucket : String) :
    (buckets.keys bucket).Pairwise (· < ·) ∧
      ∀ key, key ∈ buckets.keys bucket ↔ (buckets.read bucket key).isSome = true :=
  ⟨List.pairwise_map.mpr (buckets.objects bucket).ascending,
    (buckets.objects bucket).mem_keys_iff⟩

end Buckets

namespace Memory

theorem read_effect (request : Request) (buckets : Buckets Json) :
    Buckets.read (backend request buckets).2 = request.effect id (Buckets.read buckets) := by
  cases request with
  | ensureBucket bucket => exact Buckets.read_ensure_eq buckets bucket
  | get bucket key => rfl
  | listKeys bucket => rfl
  | update bucket key value => exact Buckets.read_write_eq buckets bucket key value
  | delete bucket key => exact Buckets.read_delete_eq buckets bucket key

def storage : Storage (Buckets Json) Json where
  backend := backend
  objects := Buckets.read
  encode := id
  decode := .ok
  refused {request _ _} refusal := by cases request <;> cases refusal
  granted {request state _} _ := read_effect request state
  found {bucket key state answer} response := by
    have same : Buckets.read state bucket key = answer := by cases response; rfl
    rw [Objects.answer, same]
    cases answer <;> rfl
  listed {bucket state keys} response := by
    cases response
    exact Buckets.keys_listed state bucket
  decode_encode _ _ _ := rfl

end Memory

/-! ## Storages over others -/

section Over

variable (storage : Storage τ α) (backend : Backend σ) (objects : σ → Objects α)

/-- How a backend over a storage takes a call: it refuses it and leaves the objects alone,
or it leaves it to the storage below. -/
inductive Storage.Takes (request : Request) (state : σ) : Prop where
  | refused (error : StoreError) (failed : (backend request state).1 = .error error)
      (untouched : objects (backend request state).2 = objects state)
  | passed (below : τ) (shown : objects state = storage.objects below)
      (answered : (backend request state).1 = (storage.backend request below).1)
      (left : objects (backend request state).2 =
        storage.objects (storage.backend request below).2)

def Storage.over (takes : ∀ request state, storage.Takes backend objects request state) :
    Storage σ α where
  backend := backend
  objects := objects
  encode := storage.encode
  decode := storage.decode
  refused {request state error} refusal := by
    cases takes request state with
    | refused _ _ untouched => exact untouched
    | passed below shown answered left =>
        rw [left, shown]
        exact storage.refused (answered.symm.trans refusal)
  granted {request state answer} grant := by
    cases takes request state with
    | refused _ failed _ => cases failed.symm.trans grant
    | passed below shown answered left =>
        rw [left, shown]
        exact storage.granted (answered.symm.trans grant)
  found {bucket key state answer} response := by
    cases takes (.get bucket key) state with
    | refused _ failed _ => cases failed.symm.trans response
    | passed below shown answered _ =>
        rw [shown]
        exact storage.found (answered.symm.trans response)
  listed {bucket state keys} response := by
    cases takes (.listKeys bucket) state with
    | refused _ failed _ => cases failed.symm.trans response
    | passed below shown answered _ =>
        rw [shown]
        exact storage.listed (answered.symm.trans response)
  decode_encode := storage.decode_encode

end Over

theorem Storage.takes_disturbed (storage : Storage σ α) (disturbance : Disturbance φ)
    (request : Request) (state : φ × σ) :
    storage.Takes (storage.backend.disturbed disturbance) (fun state => storage.objects state.2)
      request state := by
  rcases state with ⟨plan, state⟩
  cases fails : (disturbance request plan).1 with
  | some error =>
      have refused := Backend.disturbed_of_failure storage.backend fails state
      exact .refused error (by rw [refused]) (by rw [refused])
  | none =>
      have passed := Backend.disturbed_of_success storage.backend fails state
      exact .passed state rfl (by rw [passed]) (by rw [passed])

def Storage.disturbed (storage : Storage σ α) (disturbance : Disturbance φ) :
    Storage (φ × σ) α :=
  storage.over (storage.backend.disturbed disturbance) (fun state => storage.objects state.2)
    (storage.takes_disturbed disturbance)

end StoreMigration
