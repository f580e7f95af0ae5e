import Mathlib.Data.List.Perm.Basic
import StoreMigration.Json.Basic

/-! Fields of an object whose names are distinct. A look-up then sees the fields without
their order, so that taking one out, which moves the last field into its place, changes
nothing for the other names. -/

namespace StoreMigration.Fields

theorem get?_eq_none_of_not_mem {name : String} {fields : Fields} (absent : name ∉ fields.names) :
    get? name fields = none := by
  induction fields with
  | nil => rfl
  | cons field rest induction =>
      rw [names, List.map_cons, List.mem_cons, not_or] at absent
      rw [get?, if_neg (Ne.symm absent.1), induction absent.2]

theorem mem_of_get? {name : String} {value : Json} {fields : Fields}
    (found : get? name fields = some value) : (name, value) ∈ fields := by
  induction fields with
  | nil => cases found
  | cons field rest induction =>
      rw [get?] at found
      split at found
      · next same =>
          cases found
          cases same
          exact List.mem_cons_self
      · exact List.mem_cons_of_mem field (induction found)

theorem put_of_distinct {name : String} {value : Json} {known more : Fields}
    (distinct : ((known ++ (name, value) :: more).map Prod.fst).Nodup) :
    put name value known = known ++ [(name, value)] := by
  rw [List.map_append, List.nodup_append] at distinct
  have absent : name ∉ known.names := fun member =>
    distinct.2.2 name member name List.mem_cons_self rfl
  exact put_of_absent value (get?_eq_none_of_not_mem absent)

/-! ## Look-ups and order -/

theorem get?_eq_some_iff {name : String} {value : Json} {fields : Fields}
    (distinct : fields.names.Nodup) : get? name fields = some value ↔ (name, value) ∈ fields := by
  refine ⟨mem_of_get?, ?_⟩
  intro member
  induction fields with
  | nil => cases member
  | cons field rest induction =>
      rw [names, List.map_cons, List.nodup_cons] at distinct
      rcases List.mem_cons.mp member with rfl | member
      · simp [get?]
      · have different : field.1 ≠ name := by
          rintro rfl
          exact distinct.1 (List.mem_map.mpr ⟨_, member, rfl⟩)
        rw [get?, if_neg different, induction distinct.2 member]

theorem get?_of_perm {name : String} {left right : Fields} (distinct : left.names.Nodup)
    (same : left.Perm right) : get? name left = get? name right := by
  have distinctRight : right.names.Nodup := (same.map Prod.fst).nodup distinct
  apply Option.ext
  intro value
  rw [get?_eq_some_iff distinct, get?_eq_some_iff distinctRight, same.mem_iff]

theorem get?_append (name : String) (front back : Fields) :
    get? name (front ++ back) = (get? name front).or (get? name back) := by
  induction front with
  | nil => rfl
  | cons field rest induction =>
      rw [List.cons_append, get?, get?]
      split
      · rfl
      · exact induction

/-! ## Taking a field out -/

theorem remove_perm (name : String) (fields : Fields) :
    (remove name fields).Perm (fields.eraseP fun field => field.1 = name) := by
  induction fields with
  | nil => rfl
  | cons field rest induction =>
      by_cases same : field.1 = name
      · rw [remove, if_pos same, List.eraseP_cons, decide_eq_true same, cond_true]
        split
        · next none => rw [List.getLast?_eq_none_iff.mp none]
        · next last found =>
            have whole : rest.dropLast ++ [last] = rest := List.dropLast_append_getLast? last found
            have moved := (List.perm_append_singleton last rest.dropLast).symm
            rw [whole] at moved
            exact moved
      · rw [remove, if_neg same, List.eraseP_cons, decide_eq_false same, cond_false]
        exact induction.cons field

theorem nodup_remove {fields : Fields} (distinct : fields.names.Nodup) (name : String) :
    (remove name fields).names.Nodup := by
  have rest : (Fields.names (fields.eraseP fun field => field.1 = name)).Nodup :=
    distinct.sublist (List.eraseP_sublist.map Prod.fst)
  exact ((remove_perm name fields).map Prod.fst).nodup_iff.mpr rest

theorem mem_of_mem_remove {name : String} {fields : Fields} {field : String × Json}
    (member : field ∈ remove name fields) : field ∈ fields :=
  List.mem_of_mem_eraseP ((remove_perm name fields).mem_iff.mp member)

theorem get?_remove {fields : Fields} (distinct : fields.names.Nodup) (name other : String) :
    get? other (remove name fields) = if other = name then none else get? other fields := by
  rw [get?_of_perm (nodup_remove distinct name) (remove_perm name fields)]
  induction fields with
  | nil => simp [get?]
  | cons field rest induction =>
      rw [names, List.map_cons, List.nodup_cons] at distinct
      by_cases here : field.1 = name
      · have gone : get? name rest = none := get?_eq_none_of_not_mem (here ▸ distinct.1)
        rw [List.eraseP_cons, decide_eq_true here, cond_true]
        by_cases same : other = name
        · rw [if_pos same, same, gone]
        · rw [if_neg same, get?, if_neg (here ▸ Ne.symm same)]
      · rw [List.eraseP_cons, decide_eq_false here, cond_false, get?, get?, induction distinct.2]
        by_cases same : other = name
        · simp [same, here]
        · simp [same]

theorem remove_append {name : String} {front : Fields} (absent : get? name front = none)
    (back : Fields) : remove name (front ++ back) = front ++ remove name back := by
  induction front with
  | nil => rfl
  | cons field rest induction =>
      rw [get?] at absent
      split at absent
      · cases absent
      · next different =>
          rw [List.cons_append, remove, if_neg different, induction absent]
          rfl

theorem remove_concat {name : String} {front : Fields} (absent : get? name front = none)
    (value : Json) : remove name (front ++ [(name, value)]) = front := by
  rw [remove_append absent, remove, if_pos rfl]
  exact List.append_nil front

/-! ## Adding a field -/

theorem get?_putIfAbsent (name : String) (value : Json) (fields : Fields) (other : String) :
    get? other (putIfAbsent name value fields) =
      (get? other fields).or (if other = name then some value else none) := by
  rw [putIfAbsent]
  split
  · next present =>
      rw [contains, Option.isSome_iff_exists] at present
      rcases present with ⟨old, found⟩
      by_cases same : other = name
      · simp [same, found]
      · simp [same]
  · rw [get?_append]
    by_cases same : other = name
    · simp [same, get?]
    · simp [same, get?, Ne.symm same]

theorem putIfAbsent_of_absent {name : String} {fields : Fields} (value : Json)
    (absent : get? name fields = none) :
    putIfAbsent name value fields = fields ++ [(name, value)] := by
  rw [putIfAbsent, contains, absent]
  rfl

theorem not_mem_names {name : String} {fields : Fields} (absent : get? name fields = none) :
    name ∉ fields.names := by
  induction fields with
  | nil => exact List.not_mem_nil
  | cons field rest induction =>
      rw [get?] at absent
      split at absent
      · cases absent
      · next different =>
          rw [names, List.map_cons, List.mem_cons, not_or]
          exact ⟨Ne.symm different, induction absent⟩

theorem nodup_putIfAbsent {fields : Fields} (distinct : fields.names.Nodup) (name : String)
    (value : Json) : (putIfAbsent name value fields).names.Nodup := by
  rw [putIfAbsent]
  split
  · exact distinct
  · next absent =>
      have fresh := not_mem_names (Option.not_isSome_iff_eq_none.mp absent)
      rw [names, List.map_append, List.nodup_append]
      refine ⟨distinct, by simp, ?_⟩
      intro known inFields other member
      cases List.mem_singleton.mp member
      rintro rfl
      exact fresh inFields

theorem mem_of_mem_putIfAbsent {name : String} {value : Json} {fields : Fields}
    {field : String × Json} (member : field ∈ putIfAbsent name value fields) :
    field ∈ fields ∨ field = (name, value) := by
  rw [putIfAbsent] at member
  split at member
  · exact .inl member
  · rcases List.mem_append.mp member with member | member
    · exact .inl member
    · exact .inr (List.mem_singleton.mp member)

end StoreMigration.Fields

/-! ## Conditions on all values -/

namespace StoreMigration.Json

theorem wellFormedFields_iff (fields : Fields) :
    WellFormedFields fields ↔ ∀ field ∈ fields, field.2.WellFormed := by
  induction fields with
  | nil => simp [WellFormedFields]
  | cons field rest induction => simp [WellFormedFields, induction]

theorem floatFreeFields_iff (fields : Fields) :
    FloatFreeFields fields ↔ ∀ field ∈ fields, field.2.FloatFree := by
  induction fields with
  | nil => simp [FloatFreeFields]
  | cons field rest induction => simp [FloatFreeFields, induction]

theorem depthOfFields_lt_iff (fields : Fields) {bound : Nat} (positive : 0 < bound) :
    depthOfFields fields < bound ↔ ∀ field ∈ fields, field.2.depth < bound := by
  induction fields with
  | nil => simp [depthOfFields, positive]
  | cons field rest induction =>
      rw [depthOfFields, Nat.max_lt, induction, List.forall_mem_cons]

end StoreMigration.Json
