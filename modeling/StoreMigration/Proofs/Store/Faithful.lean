import StoreMigration.Proofs.Json.Fields
import StoreMigration.Proofs.Store.Storage

/-! Stores on which nothing fails. A `Faithful` storage grants every call, keeps each value
that it can hold, and answers a look-up with what it keeps; the store that keeps values is
one. Other backends relay calls to such a store or refuse them. -/

namespace StoreMigration

/-! ## Buckets that exist -/

namespace Buckets

def Has (buckets : Buckets α) (bucket : String) : Prop :=
  (buckets.get? bucket).isSome = true

theorem has_insert_iff (buckets : Buckets α) (bucket other : String) (objects : OrderedMap α) :
    Has (buckets.insert bucket objects) other ↔ other = bucket ∨ buckets.Has other := by
  by_cases same : other = bucket
  · simp [Has, same]
  · simp [Has, same, OrderedMap.get?_insert_of_ne _ _ same]

theorem has_ensure_iff (buckets : Buckets α) (bucket other : String) :
    (buckets.ensure bucket).Has other ↔ other = bucket ∨ buckets.Has other :=
  has_insert_iff buckets bucket other _

theorem has_write_iff (buckets : Buckets α) (bucket other key : String) (value : α) :
    (buckets.write bucket key value).Has other ↔ other = bucket ∨ buckets.Has other :=
  has_insert_iff buckets bucket other _

theorem nodup_keys (buckets : Buckets α) (bucket : String) : (buckets.keys bucket).Nodup := by
  apply List.Pairwise.imp _ (buckets.keys_listed bucket).1
  rintro key other less rfl
  exact String.lt_irrefl key less

theorem keys_ensure (buckets : Buckets α) (bucket other : String) :
    (buckets.ensure bucket).keys other = buckets.keys other := by
  rw [keys, objects_ensure, keys]

theorem has_of_read {buckets : Buckets α} {bucket key : String} {value : α}
    (found : buckets.read bucket key = some value) : buckets.Has bucket := by
  rw [Has]
  cases present : buckets.get? bucket with
  | some objects => rfl
  | none =>
      rw [read, objects, present] at found
      cases found

theorem get?_eq_of_read {left right : Buckets α} {bucket : String}
    (same : left.Has bucket ↔ right.Has bucket) (alike : left.read bucket = right.read bucket) :
    left.get? bucket = right.get? bucket := by
  have objectsAlike : left.objects bucket = right.objects bucket :=
    OrderedMap.ext_get? fun key => congrFun alike key
  simp only [Has, objects] at same objectsAlike
  cases inLeft : left.get? bucket with
  | none =>
      cases inRight : right.get? bucket with
      | none => rfl
      | some objects =>
          rw [inLeft, inRight] at same
          cases same.mpr rfl
  | some objects =>
      cases inRight : right.get? bucket with
      | none =>
          rw [inLeft, inRight] at same
          cases same.mp rfl
      | some others =>
          rw [inLeft, inRight] at objectsAlike
          exact congrArg some objectsAlike

theorem ext_read {left right : Buckets α} (same : ∀ bucket, left.Has bucket ↔ right.Has bucket)
    (alike : left.read = right.read) : left = right :=
  OrderedMap.ext_get? fun bucket => get?_eq_of_read (same bucket) (congrFun alike bucket)

end Buckets

/-! ## What a store can hold -/

/-- Nothing is nested in the value but empty arrays and objects, and no number in it has a
fraction. -/
def Json.Modest (value : Json) : Prop :=
  value.FloatFree ∧ value.WellFormed ∧ value.depth ≤ 1

/-- Which values can be stored, and which can be the values of fields in them. -/
structure Json.Capacity where
  Held : Json → Prop
  Within : Json → Prop
  held_object_iff : ∀ fields : Fields, Held (.object fields) ↔
    fields.names.Nodup ∧ ∀ field ∈ fields, Within field.2
  held_of_modest : ∀ {value : Json}, value.Modest → Held value
  within_of_modest : ∀ {value : Json}, value.Modest → Within value

/-- Every value, as long as no object in it names a field twice. -/
def Json.Capacity.unlimited : Json.Capacity where
  Held := Json.WellFormed
  Within := Json.WellFormed
  held_object_iff fields := and_congr_right fun _ => Json.wellFormedFields_iff fields
  held_of_modest modest := modest.2.1
  within_of_modest modest := modest.2.1

/-! ## Faithful storages -/

structure Storage.Faithful (storage : Storage (Buckets α) α) (capacity : Json.Capacity) : Prop where
  shown : storage.objects = Buckets.read
  ensure_eq : ∀ (bucket : String) (buckets : Buckets α),
    storage.backend (.ensureBucket bucket) buckets = (.ok (), buckets.ensure bucket)
  get_eq : ∀ (bucket key : String) (buckets : Buckets α),
    storage.backend (.get bucket key) buckets = (storage.read buckets bucket key, buckets)
  update_eq : ∀ (bucket key : String) {value : Json} (buckets : Buckets α), capacity.Held value →
    storage.backend (.update bucket key value) buckets =
      (.ok (), buckets.write bucket key (storage.encode value))
  delete_eq : ∀ (bucket key : String) (buckets : Buckets α),
    storage.backend (.delete bucket key) buckets = (.ok (), buckets.delete bucket key)
  list_eq : ∀ (bucket : String) (buckets : Buckets α),
    storage.backend (.listKeys bucket) buckets = (.ok (buckets.keys bucket), buckets)
  decode_held : ∀ {value : Json}, capacity.Held value →
    storage.decode (storage.encode value) = .ok value

theorem Memory.faithful : Memory.storage.Faithful .unlimited where
  shown := rfl
  ensure_eq _ _ := rfl
  get_eq bucket key buckets := by
    have found : (Memory.storage.backend (.get bucket key) buckets).1 =
        .ok (buckets.read bucket key) := rfl
    exact congrArg (·, buckets) (Memory.storage.found found).symm
  update_eq _ _ _ _ _ := rfl
  delete_eq _ _ _ := rfl
  list_eq _ _ := rfl
  decode_held _ := rfl

theorem Storage.Faithful.read_eq {storage : Storage (Buckets α) α} {capacity : Json.Capacity}
    (faithful : storage.Faithful capacity) (buckets : Buckets α) (bucket key : String) :
    storage.read buckets bucket key = Objects.answer storage.decode buckets.read bucket key := by
  rw [Storage.read, faithful.shown]

/-! ## Relays -/

section Relay

variable (backend : Backend σ) (below : Backend τ) (content : σ → τ) (fallible : Prop)

/-- A call is left to the backend below, or, where calls can be refused at all, it is refused
and changes nothing there. -/
inductive Backend.Relays (request : Request) (state : σ) : Prop where
  | refused (error : StoreError) (unreliable : fallible)
      (failed : (backend request state).1 = .error error)
      (untouched : content (backend request state).2 = content state)
  | passed (answered : (backend request state).1 = (below request (content state)).1)
      (left : content (backend request state).2 = (below request (content state)).2)

end Relay

section Relayed

variable {backend : Backend σ} {storage : Storage (Buckets α) α} {capacity : Json.Capacity}
  {content : σ → Buckets α} {fallible : Prop} {bucket key : String} {state : σ}

theorem Backend.Relays.lookUp (faithful : storage.Faithful capacity)
    (relays : backend.Relays storage.backend content fallible (.get bucket key) state) :
    content (backend (.get bucket key) state).2 = content state ∧
      ((fallible ∧ ∃ error, (backend (.get bucket key) state).1 = .error error) ∨
        (backend (.get bucket key) state).1 = storage.read (content state) bucket key) := by
  cases relays with
  | refused error unreliable failed untouched =>
      exact ⟨untouched, .inl ⟨unreliable, error, failed⟩⟩
  | passed answered left =>
      rw [faithful.get_eq] at answered left
      exact ⟨left, .inr answered⟩

theorem Backend.Relays.write (faithful : storage.Faithful capacity) {value : Json}
    (held : capacity.Held value)
    (relays : backend.Relays storage.backend content fallible (.update bucket key value) state) :
    ((backend (.update bucket key value) state).1 = .ok () ∧
        content (backend (.update bucket key value) state).2 =
          (content state).write bucket key (storage.encode value)) ∨
      fallible ∧ (∃ error, (backend (.update bucket key value) state).1 = .error error) ∧
        content (backend (.update bucket key value) state).2 = content state := by
  cases relays with
  | refused error unreliable failed untouched =>
      exact .inr ⟨unreliable, ⟨error, failed⟩, untouched⟩
  | passed answered left =>
      rw [faithful.update_eq bucket key _ held] at answered left
      exact .inl ⟨answered, left⟩

end Relayed

theorem Backend.relays_self (backend : Backend σ) (request : Request) (state : σ) :
    backend.Relays backend id False request state :=
  .passed rfl rfl

theorem Backend.relays_disturbed (backend : Backend σ) (disturbance : Disturbance φ)
    (request : Request) (state : φ × σ) :
    (backend.disturbed disturbance).Relays backend Prod.snd True request state := by
  rcases state with ⟨plan, state⟩
  cases fails : (disturbance request plan).1 with
  | some error =>
      have refused := backend.disturbed_of_failure fails state
      exact .refused error trivial (by rw [refused]) (by rw [refused])
  | none =>
      have passed := backend.disturbed_of_success fails state
      exact .passed (by rw [passed]) (by rw [passed])

end StoreMigration
