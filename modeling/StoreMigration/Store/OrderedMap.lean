/-! Finite maps from texts, kept in ascending order of their keys. The order of
texts is that of their characters, which is also that of their UTF-8 bytes. Two
maps that give the same answer to every look-up are equal (`OrderedMap.ext_get?`). -/

namespace StoreMigration

structure OrderedMap (α : Type) where
  entries : List (String × α)
  ascending : entries.Pairwise fun left right => left.1 < right.1
  deriving DecidableEq

namespace OrderedMap

/-! ## Lists of entries -/

theorem before_of_not_before {left right : String} (notBefore : ¬ left < right)
    (different : left ≠ right) : right < left := by
  refine Classical.byContradiction fun notAfter => different ?_
  exact String.le_antisymm (String.not_lt.mp notAfter) (String.not_lt.mp notBefore)

def lookup (key : String) : List (String × α) → Option α
  | [] => none
  | (other, value) :: rest => if other = key then some value else lookup key rest

def insertEntry (key : String) (value : α) : List (String × α) → List (String × α)
  | [] => [(key, value)]
  | (other, old) :: rest =>
      if key = other then (key, value) :: rest
      else if key < other then (key, value) :: (other, old) :: rest
      else (other, old) :: insertEntry key value rest

def eraseEntry (key : String) : List (String × α) → List (String × α)
  | [] => []
  | (other, old) :: rest => if other = key then rest else (other, old) :: eraseEntry key rest

theorem mem_insertEntry {key : String} {value : α} {entries : List (String × α)}
    {entry : String × α} (member : entry ∈ insertEntry key value entries) :
    entry = (key, value) ∨ entry ∈ entries := by
  induction entries with
  | nil => simpa [insertEntry] using member
  | cons head rest induction =>
      rw [insertEntry] at member
      split at member
      · rcases List.mem_cons.mp member with equal | member
        · exact .inl equal
        · exact .inr (List.mem_cons_of_mem _ member)
      · split at member
        · exact List.mem_cons.mp member
        · rcases List.mem_cons.mp member with equal | member
          · exact .inr (equal ▸ List.mem_cons_self)
          · exact (induction member).imp_right (List.mem_cons_of_mem _)

theorem mem_of_mem_eraseEntry {key : String} {entries : List (String × α)}
    {entry : String × α} (member : entry ∈ eraseEntry key entries) : entry ∈ entries := by
  induction entries with
  | nil => exact member
  | cons head rest induction =>
      rw [eraseEntry] at member
      split at member
      · exact List.mem_cons_of_mem _ member
      · rcases List.mem_cons.mp member with equal | member
        · exact equal ▸ List.mem_cons_self
        · exact List.mem_cons_of_mem _ (induction member)

theorem ascending_insertEntry (key : String) (value : α) {entries : List (String × α)}
    (ascending : entries.Pairwise fun left right => left.1 < right.1) :
    (insertEntry key value entries).Pairwise fun left right => left.1 < right.1 := by
  induction entries with
  | nil => simp [insertEntry]
  | cons head rest induction =>
      have parts := List.pairwise_cons.mp ascending
      rw [insertEntry]
      split
      · next equal =>
          exact List.pairwise_cons.mpr ⟨fun entry member => equal ▸ parts.1 entry member, parts.2⟩
      · next different =>
          split
          · next before =>
              refine List.pairwise_cons.mpr ⟨fun entry member => ?_, ascending⟩
              rcases List.mem_cons.mp member with equal | member
              · exact equal ▸ before
              · exact String.lt_trans before (parts.1 entry member)
          · next notBefore =>
              refine List.pairwise_cons.mpr ⟨fun entry member => ?_, induction parts.2⟩
              rcases mem_insertEntry member with equal | member
              · exact equal ▸ before_of_not_before notBefore different
              · exact parts.1 entry member

theorem ascending_eraseEntry (key : String) {entries : List (String × α)}
    (ascending : entries.Pairwise fun left right => left.1 < right.1) :
    (eraseEntry key entries).Pairwise fun left right => left.1 < right.1 := by
  induction entries with
  | nil => exact ascending
  | cons head rest induction =>
      have parts := List.pairwise_cons.mp ascending
      rw [eraseEntry]
      split
      · exact parts.2
      · exact List.pairwise_cons.mpr
          ⟨fun entry member => parts.1 entry (mem_of_mem_eraseEntry member), induction parts.2⟩

theorem lookup_eq_none_of_before {key : String} {entries : List (String × α)}
    (before : ∀ entry ∈ entries, key < entry.1) : lookup key entries = none := by
  induction entries with
  | nil => rfl
  | cons head rest induction =>
      have different : head.1 ≠ key := fun equal =>
        String.lt_irrefl key (equal ▸ before head List.mem_cons_self)
      simp only [lookup, different, if_false]
      exact induction fun entry member => before entry (List.mem_cons_of_mem _ member)

theorem mem_of_lookup {key : String} {value : α} {entries : List (String × α)}
    (found : lookup key entries = some value) : (key, value) ∈ entries := by
  induction entries with
  | nil => cases found
  | cons head rest induction =>
      obtain ⟨other, old⟩ := head
      rw [lookup] at found
      split at found
      · next equal =>
          cases found
          cases equal
          exact List.mem_cons_self
      · exact List.mem_cons_of_mem _ (induction found)

theorem lookup_of_mem {key : String} {value : α} {entries : List (String × α)}
    (ascending : entries.Pairwise fun left right => left.1 < right.1)
    (member : (key, value) ∈ entries) : lookup key entries = some value := by
  induction entries with
  | nil => cases member
  | cons head rest induction =>
      have parts := List.pairwise_cons.mp ascending
      rcases List.mem_cons.mp member with equal | member
      · subst equal
        simp [lookup]
      · have different : head.1 ≠ key := fun equal =>
          String.lt_irrefl key (by simpa [equal] using parts.1 _ member)
        simp only [lookup, different, if_false]
        exact induction parts.2 member

/-! ## Maps -/

def empty : OrderedMap α := ⟨[], .nil⟩

instance : Inhabited (OrderedMap α) := ⟨empty⟩

def get? (map : OrderedMap α) (key : String) : Option α :=
  lookup key map.entries

def insert (map : OrderedMap α) (key : String) (value : α) : OrderedMap α :=
  ⟨insertEntry key value map.entries, ascending_insertEntry key value map.ascending⟩

def erase (map : OrderedMap α) (key : String) : OrderedMap α :=
  ⟨eraseEntry key map.entries, ascending_eraseEntry key map.ascending⟩

def keys (map : OrderedMap α) : List String :=
  map.entries.map Prod.fst

def size (map : OrderedMap α) : Nat :=
  map.entries.length

@[simp] theorem get?_insert_same (map : OrderedMap α) (key : String) (value : α) :
    (map.insert key value).get? key = some value := by
  obtain ⟨entries, ascending⟩ := map
  show lookup key (insertEntry key value entries) = some value
  clear ascending
  induction entries with
  | nil => simp [insertEntry, lookup]
  | cons head rest induction =>
      rw [insertEntry]
      split
      · simp [lookup]
      · next different =>
          split
          · simp [lookup]
          · simpa [lookup, Ne.symm different] using induction

theorem get?_insert_of_ne (map : OrderedMap α) {key other : String} (value : α)
    (different : other ≠ key) : (map.insert key value).get? other = map.get? other := by
  obtain ⟨entries, ascending⟩ := map
  show lookup other (insertEntry key value entries) = lookup other entries
  clear ascending
  induction entries with
  | nil => simp [insertEntry, lookup, different.symm]
  | cons head rest induction =>
      rw [insertEntry]
      split
      · next equal => simp [lookup, ← equal, different.symm]
      · split
        · simp [lookup, different.symm]
        · simp only [lookup, induction]

@[simp] theorem get?_erase_same (map : OrderedMap α) (key : String) :
    (map.erase key).get? key = none := by
  obtain ⟨entries, ascending⟩ := map
  show lookup key (eraseEntry key entries) = none
  induction entries with
  | nil => rfl
  | cons head rest induction =>
      have parts := List.pairwise_cons.mp ascending
      rw [eraseEntry]
      split
      · next equal =>
          exact lookup_eq_none_of_before fun entry member => equal ▸ parts.1 entry member
      · next different => simp only [lookup, different, if_false, induction parts.2]

theorem get?_erase_of_ne (map : OrderedMap α) {key other : String}
    (different : other ≠ key) : (map.erase key).get? other = map.get? other := by
  obtain ⟨entries, ascending⟩ := map
  show lookup other (eraseEntry key entries) = lookup other entries
  clear ascending
  induction entries with
  | nil => rfl
  | cons head rest induction =>
      rw [eraseEntry]
      split
      · next equal => simp [lookup, equal, different.symm]
      · simp only [lookup, induction]

theorem mem_keys_iff (map : OrderedMap α) (key : String) :
    key ∈ map.keys ↔ (map.get? key).isSome = true := by
  constructor
  · intro member
    obtain ⟨⟨other, value⟩, entry, equal⟩ := List.mem_map.mp member
    cases equal
    rw [get?, lookup_of_mem map.ascending entry]
    rfl
  · intro found
    obtain ⟨value, found⟩ := Option.isSome_iff_exists.mp found
    exact List.mem_map.mpr ⟨(key, value), mem_of_lookup found, rfl⟩

theorem ext_get? {left right : OrderedMap α} (same : ∀ key, left.get? key = right.get? key) :
    left = right := by
  obtain ⟨leftEntries, leftAscending⟩ := left
  obtain ⟨rightEntries, rightAscending⟩ := right
  have equal : leftEntries = rightEntries := by
    simp only [get?] at same
    induction leftEntries generalizing rightEntries with
    | nil =>
        cases rightEntries with
        | nil => rfl
        | cons head rest =>
            have impossible := same head.1
            simp [lookup] at impossible
    | cons head rest induction =>
        cases rightEntries with
        | nil =>
            have impossible := same head.1
            simp [lookup] at impossible
        | cons other more =>
            have leftParts := List.pairwise_cons.mp leftAscending
            have rightParts := List.pairwise_cons.mp rightAscending
            -- Each head is the least key of its list, and each list has the key of the other head.
            have sameKey : head.1 = other.1 := by
              refine Classical.byContradiction fun different => ?_
              have inRight : (head.1, head.2) ∈ other :: more :=
                mem_of_lookup (by rw [← same]; simp [lookup])
              have inLeft : (other.1, other.2) ∈ head :: rest :=
                mem_of_lookup (by rw [same]; simp [lookup])
              rcases List.mem_cons.mp inRight with equal | inRight
              · exact different (congrArg Prod.fst equal)
              · rcases List.mem_cons.mp inLeft with equal | inLeft
                · exact different (congrArg Prod.fst equal).symm
                · exact String.lt_asymm (rightParts.1 _ inRight) (leftParts.1 _ inLeft)
            have sameValue : head.2 = other.2 := by
              have values := same head.1
              simpa [lookup, sameKey] using values
            have sameRest : rest = more := by
              refine induction leftParts.2 more rightParts.2 fun key => ?_
              by_cases equal : head.1 = key
              · rw [lookup_eq_none_of_before fun entry member =>
                    equal ▸ leftParts.1 entry member,
                  lookup_eq_none_of_before fun entry member =>
                    (sameKey.symm.trans equal) ▸ rightParts.1 entry member]
              · have values := same key
                simpa [lookup, equal, sameKey ▸ equal] using values
            rw [sameRest]
            exact congrArg (· :: more) (Prod.ext sameKey sameValue)
  subst equal
  rfl

end OrderedMap

end StoreMigration
