import StoreMigration.Proofs.Migration.EditedBuckets
import StoreMigration.Proofs.Migration.Steps

/-! Running transforms on a backend that relays calls to a faithful storage or refuses them.
However the calls fail, each object has been taken through the first few of the transforms,
and through all of them when nothing failed. Where calls cannot be refused, only an object
that does not read back makes a run fail. -/

namespace StoreMigration

namespace Storage

variable {storage : Storage (Buckets α) α} {transforms : List Transform} {before after : Buckets α}

/-- What running some transforms came to, whatever calls failed. -/
structure TakesThrough (storage : Storage (Buckets α) α) (fallible : Prop)
    (transforms : List Transform) (before after : Buckets α) (outcome : Except ε β) : Prop where
  partly : storage.PartlyEdited transforms before after
  wholly : ∀ result, outcome = .ok result → storage.Edited transforms before after ∧
    ∀ transform ∈ transforms, ∀ key, storage.Readable before transform.bucket key
  failed : ∀ error, outcome = .error error → fallible ∨
    ∃ transform ∈ transforms, ∃ key, ¬ storage.Readable before transform.bucket key

theorem TakesThrough.mapError {fallible : Prop} {outcome : Except ε β} (change : ε → ε')
    (takes : storage.TakesThrough fallible transforms before after outcome) :
    storage.TakesThrough fallible transforms before after (outcome.mapError change) := by
  cases outcome with
  | ok result => exact ⟨takes.partly, fun _ _ => takes.wholly result rfl, nofun⟩
  | error error => exact ⟨takes.partly, nofun, fun _ _ => takes.failed error rfl⟩

end Storage

/-! ## Programs -/

section Runs

variable {storage : Storage (Buckets α) α} {capacity : Json.Capacity} {backend : Backend σ}
  {content : σ → Buckets α} {fallible : Prop} {edit : FieldEdit} {bucket : String}
  {state after : σ} {made : List (Exchange σ)}

theorem finishes_of_found {found : Option Json} {key : String} {outcome : Except StoreError Unit}
    (runs : (match found with
      | some (.object fields) =>
          match edit.change? fields with
          | some changed => Action.update bucket key (.object changed)
          | none => pure ()
      | _ => pure ()).Runs backend state outcome made after) :
    (outcome = .ok () ∧ made = [] ∧ after = state ∧
        ∀ fields, found = some (.object fields) → edit.change? fields = none) ∨
      ∃ fields changed, found = some (.object fields) ∧ edit.change? fields = some changed ∧
        (Action.update bucket key (.object changed)).Runs backend state outcome made after := by
  split at runs
  · next fields =>
      split at runs
      · next changed change => exact .inr ⟨fields, changed, rfl, change, runs⟩
      · next unchanged =>
          rcases runs.unique (.pure () state) with ⟨rfl, rfl, rfl⟩
          refine .inl ⟨rfl, rfl, rfl, ?_⟩
          rintro _ ⟨⟩
          exact unchanged
  · next plain =>
      rcases runs.unique (.pure () state) with ⟨rfl, rfl, rfl⟩
      exact .inl ⟨rfl, rfl, rfl, fun fields same => absurd same (plain fields)⟩

theorem edited_key_of_runs (faithful : storage.Faithful capacity)
    (relays : ∀ request state, backend.Relays storage.backend content fallible request state)
    (fits : edit.Fits capacity)
    (holds : storage.HoldsIn capacity (content state) bucket) {key : String}
    {outcome : Except StoreError Unit}
    (runs : (edit.editKey bucket key).Runs backend state outcome made after) :
    ((∃ error, outcome = .error error) ∧
        (fallible ∨ ¬ storage.Readable (content state) bucket key) ∧
        content after = content state) ∨
      (outcome = .ok () ∧ storage.Readable (content state) bucket key ∧
        content after = storage.editObject edit bucket key (content state)) := by
  have asked : (Action.get bucket key).Runs backend state (backend (.get bucket key) state).1
      [backend.exchange (.get bucket key) state] (backend (.get bucket key) state).2 :=
    Action.Runs.request (.get bucket key) state
  rcases (relays (.get bucket key) state).lookUp faithful with
    ⟨left, ⟨unreliable, error, failed⟩ | answered⟩
  · rw [failed] at asked
    rcases runs.of_bind_error asked with ⟨rfl, _, rfl⟩
    exact .inl ⟨⟨error, rfl⟩, .inl unreliable, left⟩
  rw [answered] at asked
  cases known : storage.read (content state) bucket key with
  | error error =>
      rw [known] at asked
      rcases runs.of_bind_error asked with ⟨rfl, _, rfl⟩
      refine .inl ⟨⟨error, rfl⟩, .inr ?_, left⟩
      rintro ⟨answer, readable⟩
      cases known.symm.trans readable
  | ok found =>
      rw [known] at asked
      rcases runs.of_bind_ok asked with ⟨_, _, onceAsked⟩
      have readable : storage.Readable (content state) bucket key := ⟨found, known⟩
      rcases finishes_of_found onceAsked with
        ⟨rfl, _, rfl, unchanged⟩ | ⟨fields, changed, rfl, change, writes⟩
      · have same := Storage.editObject_of_unchanged faithful known unchanged
        exact .inr ⟨rfl, readable, left.trans same.symm⟩
      · have held := Storage.held_of_change faithful fits holds known change
        have written := (relays (.update bucket key (.object changed))
          (backend (.get bucket key) state).2).write faithful held
        rcases writes.unique (Action.Runs.request (.update bucket key (.object changed)) _) with
          ⟨rfl, _, rfl⟩
        rw [left] at written
        rcases written with ⟨granted, written⟩ | ⟨unreliable, failed, untouched⟩
        · have same := Storage.editObject_of_change faithful known change
          exact .inr ⟨granted, readable, written.trans same.symm⟩
        · exact .inl ⟨failed, .inl unreliable, untouched⟩

theorem edited_keys_of_runs (faithful : storage.Faithful capacity)
    (relays : ∀ request state, backend.Relays storage.backend content fallible request state)
    (fits : edit.Fits capacity) {keys : List String} (distinct : keys.Nodup)
    (holds : storage.HoldsIn capacity (content state) bucket) {outcome : Except StoreError Unit}
    (runs : (edit.editKeys bucket keys).Runs backend state outcome made after) :
    ∃ done rest, keys = done ++ rest ∧
      content after = storage.editObjects edit bucket done (content state) ∧
      (outcome = .ok () → rest = [] ∧
        ∀ key ∈ keys, storage.Readable (content state) bucket key) ∧
      (∀ error, outcome = .error error → fallible ∨
        ∃ key ∈ keys, ¬ storage.Readable (content state) bucket key) := by
  induction keys generalizing state made with
  | nil =>
      rcases runs.unique (.pure () _) with ⟨rfl, _, rfl⟩
      exact ⟨[], [], rfl, rfl, fun _ => ⟨rfl, fun _ => nofun⟩, nofun⟩
  | cons key rest induction =>
      rw [List.nodup_cons] at distinct
      rcases Action.Runs.exist backend (edit.editKey bucket key) state with
        ⟨result, calls, middle, first⟩
      rcases edited_key_of_runs faithful relays fits holds first with
        ⟨⟨error, rfl⟩, why, same⟩ | ⟨rfl, readable, changed⟩
      · rcases runs.of_bind_error first with ⟨rfl, _, rfl⟩
        refine ⟨[], key :: rest, rfl, same, nofun, fun _ _ => why.imp_right ?_⟩
        exact fun unreadable => ⟨key, List.mem_cons_self, unreadable⟩
      · rcases runs.of_bind_ok first with ⟨later, _, others⟩
        -- The keys are distinct, so the others find what stood there before the first was edited.
        have holdsThen : storage.HoldsIn capacity (content middle) bucket := by
          rw [changed]
          exact Storage.holdsIn_editObject faithful fits key holds
        have sameOthers : ∀ other ∈ rest, storage.Readable (content middle) bucket other ↔
            storage.Readable (content state) bucket other := by
          intro other member
          rw [changed]
          apply Storage.readable_editObject_of_ne faithful
          rintro rfl
          exact distinct.1 member
        rcases induction distinct.2 holdsThen others with ⟨done, left, split, edited, ok, fails⟩
        refine ⟨key :: done, left, congrArg (key :: ·) split, ?_, ?_, ?_⟩
        · rw [edited, changed]
          rfl
        · intro succeeded
          rcases ok succeeded with ⟨none, all⟩
          refine ⟨none, List.forall_mem_cons.mpr ⟨readable, ?_⟩⟩
          exact fun other member => (sameOthers other member).mp (all other member)
        · intro error failed
          rcases fails error failed with unreliable | ⟨other, member, unreadable⟩
          · exact .inl unreliable
          · refine .inr ⟨other, List.mem_cons_of_mem key member, ?_⟩
            exact fun readable => unreadable ((sameOthers other member).mpr readable)

theorem opened_of_runs (faithful : storage.Faithful capacity)
    (relays : ∀ request state, backend.Relays storage.backend content fallible request state)
    {outcome : Except StoreError Unit}
    (runs : (edit.editBucket bucket).Runs backend state outcome made after) :
    (∃ error earlier failing, outcome = .error error ∧ fallible ∧ made = earlier ++ [failing] ∧
        failing.response = .error error ∧ failing.request.key? = none ∧
        (content after = content state ∨ content after = (content state).ensure bucket)) ∨
      ∃ opening later middle, made = opening ++ later ∧
        (∀ exchange ∈ opening, exchange.request.key? = none) ∧
        content middle = (content state).ensure bucket ∧
        (edit.editKeys bucket ((content state).keys bucket)).Runs backend middle outcome later
          after := by
  have ensured : (Action.ensureBucket bucket).Runs backend state _ _ _ :=
    Action.Runs.request (.ensureBucket bucket) state
  cases relays (.ensureBucket bucket) state with
  | refused error unreliable failed untouched =>
      rw [failed] at ensured
      rcases runs.of_bind_error ensured with ⟨rfl, rfl, rfl⟩
      exact .inl ⟨error, [], _, rfl, unreliable, rfl, failed, rfl, .inl untouched⟩
  | passed answered left =>
  rw [faithful.ensure_eq] at answered left
  rw [answered] at ensured
  rcases runs.of_bind_ok ensured with ⟨_, rfl, onceEnsured⟩
  have listed : (Action.listKeys bucket).Runs backend
      (backend (.ensureBucket bucket) state).2 _ _ _ :=
    Action.Runs.request (.listKeys bucket) _
  cases relays (.listKeys bucket) (backend (.ensureBucket bucket) state).2 with
  | refused error unreliable failed untouched =>
      rw [failed] at listed
      rcases onceEnsured.of_bind_error listed with ⟨rfl, rfl, rfl⟩
      exact .inl ⟨error, [_], _, rfl, unreliable, rfl, failed, rfl, .inr (untouched.trans left)⟩
  | passed told kept =>
  rw [left, faithful.list_eq, Buckets.keys_ensure] at told kept
  rw [told] at listed
  rcases onceEnsured.of_bind_ok listed with ⟨later, rfl, onceListed⟩
  refine .inr ⟨[_, _], later, _, rfl, ?_, kept, onceListed⟩
  intro exchange member
  rcases List.mem_cons.mp member with rfl | member
  · rfl
  · cases List.mem_singleton.mp member
    rfl

theorem takesThrough_editKeys (faithful : storage.Faithful capacity)
    (relays : ∀ request state, backend.Relays storage.backend content fallible request state)
    {transform : Transform} (fits : transform.edit.Fits capacity)
    {buckets : Buckets α} (place : content state = buckets.ensure transform.bucket)
    (holds : storage.HoldsIn capacity buckets transform.bucket) {outcome : Except StoreError Unit}
    (runs : (transform.edit.editKeys transform.bucket (buckets.keys transform.bucket)).Runs backend
      state outcome made after) :
    storage.TakesThrough fallible [transform] buckets (content after) outcome := by
  have distinct := buckets.nodup_keys transform.bucket
  have holdsThen : storage.HoldsIn capacity (content state) transform.bucket := by
    rw [place]
    exact Storage.holdsIn_ensure_iff.mpr holds
  rcases edited_keys_of_runs faithful relays fits distinct holdsThen runs with
    ⟨done, rest, split, edited, ok, fails⟩
  rw [place] at edited ok fails
  rw [edited]
  refine ⟨?_, ?_, ?_⟩
  · have part : done.Nodup := by
      rw [split] at distinct
      exact distinct.sublist (List.sublist_append_left done rest)
    exact Storage.partlyEdited_editObjects storage transform part buckets
  · rintro ⟨⟩ succeeded
    rcases ok succeeded with ⟨rfl, all⟩
    rw [List.append_nil] at split
    rw [split] at distinct all
    have complete : ∀ key, (buckets.read transform.bucket key).isSome = true → key ∈ done := by
      intro key stands
      rw [← split, (Buckets.keys_listed _ _).2]
      exact stands
    refine ⟨Storage.edited_editObjects storage transform distinct buckets complete,
      List.forall_mem_singleton.mpr ?_⟩
    intro key
    rw [Storage.readable_iff faithful]
    intro stored found
    have listed := complete key (by rw [found]; rfl)
    have readable := (Storage.readable_ensure_iff faithful).mp (all key listed)
    exact (Storage.readable_iff faithful).mp readable stored found
  · intro error failed
    refine (fails error failed).imp_right ?_
    rintro ⟨key, _, unreadable⟩
    exact ⟨transform, List.mem_singleton_self transform, key,
      fun readable => unreadable ((Storage.readable_ensure_iff faithful).mpr readable)⟩

theorem takesThrough_editBucket (faithful : storage.Faithful capacity)
    (relays : ∀ request state, backend.Relays storage.backend content fallible request state)
    {transform : Transform} (fits : transform.edit.Fits capacity)
    (holds : storage.HoldsIn capacity (content state) transform.bucket)
    {outcome : Except StoreError Unit}
    (runs : (transform.edit.editBucket transform.bucket).Runs backend state outcome made after) :
    storage.TakesThrough fallible [transform] (content state) (content after) outcome := by
  rcases opened_of_runs faithful relays runs with
    ⟨error, _, _, rfl, unreliable, _, _, _, same | ensured⟩ | ⟨_, _, _, _, _, place, others⟩
  · rw [same]
    exact ⟨.refl storage _ _, nofun, fun _ _ => .inl unreliable⟩
  · rw [ensured]
    exact ⟨Storage.partlyEdited_ensure storage transform _, nofun, fun _ _ => .inl unreliable⟩
  · exact takesThrough_editKeys faithful relays fits place holds others

theorem takesThrough_step (faithful : storage.Faithful capacity)
    (relays : ∀ request state, backend.Relays storage.backend content fallible request state)
    {transform : Transform} (fits : transform.edit.Fits capacity)
    (holds : storage.HoldsIn capacity (content state) transform.bucket)
    {outcome : Except StepError Unit}
    (runs : transform.step.body.Runs backend state outcome made after) :
    storage.TakesThrough fallible [transform] (content state) (content after) outcome := by
  rcases runs.of_withError with ⟨own, edits, rfl⟩
  exact (takesThrough_editBucket faithful relays fits holds edits).mapError _

theorem Transform.run_of_readable (faithful : storage.Faithful capacity) {transform : Transform}
    (fits : transform.edit.Fits capacity) {buckets : Buckets α}
    (holds : storage.HoldsIn capacity buckets transform.bucket)
    (readable : ∀ key, storage.Readable buckets transform.bucket key) :
    ∃ after, storage.Edited [transform] buckets after ∧
      transform.step.body.run storage.backend buckets = (.ok (), after) := by
  rcases Action.Runs.exist storage.backend transform.step.body buckets with
    ⟨outcome, made, after, runs⟩
  have taken := takesThrough_step faithful storage.backend.relays_self fits holds runs
  cases outcome with
  | ok _ => exact ⟨after, (taken.wholly () rfl).1, runs.run_eq⟩
  | error error =>
      rcases taken.failed error rfl with impossible | ⟨other, member, key, unreadable⟩
      · exact impossible.elim
      · cases List.mem_singleton.mp member
        exact absurd (readable key) unreadable

theorem takesThrough_runSteps (faithful : storage.Faithful capacity)
    (relays : ∀ request state, backend.Relays storage.backend content fallible request state)
    {transforms : List Transform} (fit : Transform.Fit capacity transforms)
    (holds : ∀ transform ∈ transforms,
      storage.HoldsIn capacity (content state) transform.bucket)
    {outcome : Except MigrationError (List String)}
    (runs : (Registry.runSteps (transforms.map Transform.step)).Runs backend state outcome made
      after) :
    storage.TakesThrough fallible transforms (content state) (content after) outcome := by
  induction transforms generalizing state made after outcome with
  | nil =>
      rcases runs.unique (.pure [] _) with ⟨rfl, _, rfl⟩
      exact ⟨.refl storage _ _, fun _ _ => ⟨.refl storage _, fun _ => nofun⟩, nofun⟩
  | cons transform rest induction =>
      rw [List.map_cons, Registry.runSteps_cons] at runs
      have fits := fit transform List.mem_cons_self
      have single : Transform.Fit capacity [transform] :=
        fit.of_subset (List.cons_subset_cons transform (List.nil_subset rest))
      have fitRest := fit.of_subset (List.subset_cons_self transform rest)
      rcases runs.bind_cases with ⟨_, own, rfl⟩ | ⟨_, _, middle, _, own, onceMade, _⟩
      · rcases own.error_of_withError with ⟨cause, body, rfl⟩
        have first :=
          takesThrough_step faithful relays fits (holds transform List.mem_cons_self) body
        refine ⟨first.partly.extend rest, nofun, fun _ _ => (first.failed cause rfl).imp_right ?_⟩
        rintro ⟨other, member, unreadable⟩
        cases List.mem_singleton.mp member
        exact ⟨transform, List.mem_cons_self, unreadable⟩
      have first := takesThrough_step faithful relays fits (holds transform List.mem_cons_self)
        own.ok_of_withError
      rcases first.wholly () rfl with ⟨edited, readable⟩
      -- The first step leaves a store that is held and readable where the one before was, so that
      -- the rest can be followed from there.
      have holdsThen : ∀ other ∈ rest, storage.HoldsIn capacity (content middle) other.bucket :=
        fun other member => Storage.holdsIn_of_read faithful single (first.partly.read other.bucket)
          (holds other (List.mem_cons_of_mem transform member))
      have sameReadable : ∀ other ∈ rest, ∀ key,
          storage.Readable (content middle) other.bucket key ↔
            storage.Readable (content state) other.bucket key :=
        fun other member => Storage.readable_of_read_iff faithful single (first.partly.read other.bucket)
          (holds other (List.mem_cons_of_mem transform member))
      rcases onceMade.bind_cases with ⟨error, others, rfl⟩ | ⟨names, _, _, _, others, last, _⟩
      · have second := induction fitRest holdsThen others
        refine ⟨edited.trans_partly second.partly, nofun, fun _ _ =>
          (second.failed error rfl).imp_right ?_⟩
        rintro ⟨other, member, key, unreadable⟩
        exact ⟨other, List.mem_cons_of_mem transform member, key,
          fun readable => unreadable ((sameReadable other member key).mpr readable)⟩
      · have second := induction fitRest holdsThen others
        rcases last.unique (.pure _ _) with ⟨rfl, _, rfl⟩
        rcases second.wholly names rfl with ⟨further, readableRest⟩
        refine ⟨edited.trans_partly second.partly, fun _ _ => ⟨edited.trans further, ?_⟩, nofun⟩
        refine List.forall_mem_cons.mpr ⟨readable transform List.mem_cons_self, ?_⟩
        exact fun other member key =>
          (sameReadable other member key).mp (readableRest other member key)

end Runs

end StoreMigration
