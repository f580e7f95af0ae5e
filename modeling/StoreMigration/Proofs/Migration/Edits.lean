import StoreMigration.Migration.FieldEdit
import StoreMigration.Proofs.Json.Fields

/-! What edits do to the fields of an object. An edit takes away at most one field and adds
at most one where it is missing; nothing else changes (`get?_apply`). Where no edit takes
away what another adds, an edit that has been made stays made. -/

namespace StoreMigration.FieldEdit

def removed? : FieldEdit → Option String
  | backfill _ _ => none
  | rename source _ => some source
  | drop field => some field

def added? : FieldEdit → Option String
  | backfill field _ => some field
  | rename _ target => some target
  | drop _ => none

def addition (edit : FieldEdit) (fields : Fields) (name : String) : Option Json :=
  match edit with
  | backfill field default => if name = field then some default else none
  | rename source target => if name = target then Fields.get? source fields else none
  | drop _ => none

def default? : FieldEdit → Option Json
  | backfill _ default => some default
  | rename _ _ => none
  | drop _ => none

/-- The first edit does not take away what the second adds. -/
def Apart (edit other : FieldEdit) : Prop :=
  edit.removed? = none ∨ edit.removed? ≠ other.added?

instance (edit other : FieldEdit) : Decidable (edit.Apart other) :=
  inferInstanceAs (Decidable (_ ∨ _))

variable {edit other : FieldEdit} {fields : Fields} {name : String}

theorem Apart.not_added (apart : edit.Apart other) (removed : edit.removed? = some name) :
    other.added? ≠ some name := by
  rcases apart with nothing | different
  · rw [removed] at nothing
    cases nothing
  · rw [removed] at different
    exact Ne.symm different

theorem added_of_addition {value : Json} (added : edit.addition fields name = some value) :
    edit.added? = some name := by
  cases edit with
  | backfill field default =>
      rw [addition] at added
      split at added
      · next same => rw [same, added?]
      · cases added
  | rename source target =>
      rw [addition] at added
      split at added
      · next same => rw [same, added?]
      · cases added
  | drop field => cases added

theorem addition_eq_none (notAdded : edit.added? ≠ some name) : edit.addition fields name = none := by
  rw [Option.eq_none_iff_forall_ne_some]
  intro value added
  exact notAdded (added_of_addition added)

/-! ## One edit -/

theorem apply_backfill (field : String) (default : Json) (fields : Fields) :
    (backfill field default).apply fields = Fields.putIfAbsent field default fields := by
  rw [apply, change?, Fields.putIfAbsent]
  split
  · rfl
  · next absent => exact Fields.put_of_absent default (Option.not_isSome_iff_eq_none.mp absent)

theorem apply_drop (field : String) (fields : Fields) :
    (drop field).apply fields = Fields.remove field fields := by
  rw [apply, change?]
  split
  · rfl
  · next absent => exact (Fields.remove_of_absent (Option.not_isSome_iff_eq_none.mp absent)).symm

theorem apply_rename {source : String} {value : Json} (target : String)
    (present : Fields.get? source fields = some value) :
    (rename source target).apply fields =
      Fields.putIfAbsent target value (Fields.remove source fields) := by
  simp only [apply, change?, present, Option.getD_some]

theorem apply_rename_of_absent {source : String} (target : String)
    (absent : Fields.get? source fields = none) : (rename source target).apply fields = fields := by
  simp only [apply, change?, absent, Option.getD_none]

theorem nodup_apply (edit : FieldEdit) (distinct : fields.names.Nodup) :
    (edit.apply fields).names.Nodup := by
  cases edit with
  | backfill field default =>
      rw [apply_backfill]
      exact Fields.nodup_putIfAbsent distinct field default
  | rename source target =>
      cases present : Fields.get? source fields with
      | none =>
          rw [apply_rename_of_absent target present]
          exact distinct
      | some value =>
          rw [apply_rename target present]
          exact Fields.nodup_putIfAbsent (Fields.nodup_remove distinct source) target value
  | drop field =>
      rw [apply_drop]
      exact Fields.nodup_remove distinct field

theorem forall_mem_apply {property : Json → Prop} (own : ∀ value ∈ edit.default?, property value)
    (all : ∀ field ∈ fields, property field.2) : ∀ field ∈ edit.apply fields, property field.2 := by
  intro field member
  cases edit with
  | backfill name default =>
      rw [apply_backfill] at member
      rcases Fields.mem_of_mem_putIfAbsent member with member | rfl
      · exact all field member
      · exact own default rfl
  | rename source target =>
      cases present : Fields.get? source fields with
      | none =>
          rw [apply_rename_of_absent target present] at member
          exact all field member
      | some value =>
          rw [apply_rename target present] at member
          rcases Fields.mem_of_mem_putIfAbsent member with member | rfl
          · exact all field (Fields.mem_of_mem_remove member)
          · exact all (source, value) (Fields.mem_of_get? present)
  | drop name =>
      rw [apply_drop] at member
      exact all field (Fields.mem_of_mem_remove member)

theorem get?_apply_or (edit : FieldEdit) (distinct : fields.names.Nodup) (name : String) :
    Fields.get? name (edit.apply fields) =
      (if edit.removed? = some name then none else Fields.get? name fields).or
        (edit.addition fields name) := by
  cases edit with
  | backfill field default =>
      rw [apply_backfill, Fields.get?_putIfAbsent]
      rfl
  | rename source target =>
      simp only [removed?, addition, Option.some.injEq]
      cases present : Fields.get? source fields with
      | none =>
          rw [apply_rename_of_absent target present]
          by_cases taken : source = name
          · rw [if_pos taken, ← taken, present]
            simp
          · simp [taken]
      | some value =>
          rw [apply_rename target present, Fields.get?_putIfAbsent, Fields.get?_remove distinct]
          simp only [eq_comm]
  | drop field =>
      rw [apply_drop, Fields.get?_remove distinct]
      simp [removed?, addition, eq_comm]

theorem get?_apply (proper : edit.Apart edit) (distinct : fields.names.Nodup) (name : String) :
    Fields.get? name (edit.apply fields) =
      if edit.removed? = some name then none
      else (Fields.get? name fields).or (edit.addition fields name) := by
  rw [get?_apply_or edit distinct]
  split
  · next removed =>
      rw [Option.none_or]
      exact addition_eq_none (proper.not_added removed)
  · rfl

/-! ## Edits that are made -/

theorem change?_eq_none_iff (edit : FieldEdit) (fields : Fields) :
    edit.change? fields = none ↔
      (∀ name, edit.removed? = some name → Fields.get? name fields = none) ∧
        (edit.removed? = none → ∀ name, edit.added? = some name → Fields.get? name fields ≠ none) := by
  cases edit with
  | backfill field default =>
      simp [change?, removed?, added?, Fields.contains, Option.isSome_iff_ne_none]
  | rename source target =>
      simp only [change?, removed?, Option.some.injEq, forall_eq', reduceCtorEq, false_implies,
        and_true]
      cases Fields.get? source fields with
      | none => simp
      | some value => simp
  | drop field =>
      simp [change?, removed?, Fields.contains, Option.isSome_iff_ne_none]

theorem apply_of_change?_eq_none (settled : edit.change? fields = none) :
    edit.apply fields = fields := by
  rw [apply, settled, Option.getD_none]

theorem change?_apply_self (proper : edit.Apart edit) (distinct : fields.names.Nodup) :
    edit.change? (edit.apply fields) = none := by
  rw [change?_eq_none_iff]
  constructor
  · intro name removed
    rw [get?_apply proper distinct, if_pos removed]
  · intro nothing name added
    rw [get?_apply proper distinct, nothing, if_neg nofun]
    cases edit with
    | backfill field default =>
        cases added
        simp [addition]
    | rename source target => cases nothing
    | drop field => cases nothing

/-- Making an edit twice is making it once, also where it moves a field to the end. -/
theorem apply_apply (edit : FieldEdit) (distinct : fields.names.Nodup) :
    edit.apply (edit.apply fields) = edit.apply fields := by
  by_cases proper : edit.Apart edit
  · exact apply_of_change?_eq_none (change?_apply_self proper distinct)
  · cases edit with
    | backfill field default => exact absurd (.inl rfl) proper
    | drop field => exact absurd (.inr nofun) proper
    | rename source target =>
        have same : source = target := by
          by_contra different
          exact proper (.inr fun equal => different (Option.some.inj equal))
        subst same
        cases present : Fields.get? source fields with
        | none =>
            rw [apply_rename_of_absent source present, apply_rename_of_absent source present]
        | some value =>
            have gone : Fields.get? source (Fields.remove source fields) = none := by
              rw [Fields.get?_remove distinct, if_pos rfl]
            have moved : Fields.get? source (Fields.remove source fields ++ [(source, value)]) =
                some value := by
              rw [Fields.get?_append, gone, Option.none_or, Fields.get?, if_pos rfl]
            rw [apply_rename source present, Fields.putIfAbsent_of_absent value gone,
              apply_rename source moved, Fields.remove_concat gone,
              Fields.putIfAbsent_of_absent value gone]

theorem change?_apply_other (settled : edit.change? fields = none) (proper : other.Apart other)
    (before : edit.Apart other) (after : other.Apart edit) (distinct : fields.names.Nodup) :
    edit.change? (other.apply fields) = none := by
  rw [change?_eq_none_iff] at settled ⊢
  constructor
  · intro name removed
    have gone : Fields.get? name fields = none := settled.1 name removed
    have notAdded : other.addition fields name = none :=
      addition_eq_none (before.not_added removed)
    rw [get?_apply proper distinct, gone, notAdded]
    simp
  · intro nothing name added
    have present : Fields.get? name fields ≠ none := settled.2 nothing name added
    have kept : other.removed? ≠ some name := fun removed => after.not_added removed added
    rw [get?_apply proper distinct, if_neg kept]
    simp [present]

end StoreMigration.FieldEdit
