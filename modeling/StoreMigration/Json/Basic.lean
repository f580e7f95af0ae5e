import StoreMigration.Json.Double

/-! JSON values. An object keeps its fields in the order in which they were
written: a new field goes to the end, an overwritten one keeps its place, and a
removed one leaves its place to the last field. -/

namespace StoreMigration

/-- Integers and floating-point numbers are told apart by how they were written,
so `1` and `1.0` are different values. -/
inductive JsonNumber where
  | integer (value : Int)
  | float (value : Double)
  deriving DecidableEq, Repr

inductive Json where
  | null
  | bool (value : Bool)
  | number (value : JsonNumber)
  | string (value : String)
  | array (items : List Json)
  | object (fields : List (String × Json))
  deriving Repr, BEq

/-- The fields of an object in stored order. -/
abbrev Fields := List (String × Json)

namespace Json

def integer (value : Int) : Json := .number (.integer value)

def strings (values : List String) : Json := .array (values.map .string)

def optional (encode : α → Json) : Option α → Json
  | none => .null
  | some value => encode value

/-! ## Nesting -/

/- How many arrays and objects lie inside one another at the deepest place. -/
mutual
def depth : Json → Nat
  | array items => depthOfItems items + 1
  | object fields => depthOfFields fields + 1
  | _ => 0

def depthOfItems : List Json → Nat
  | [] => 0
  | item :: rest => max item.depth (depthOfItems rest)

def depthOfFields : Fields → Nat
  | [] => 0
  | (_, value) :: rest => max value.depth (depthOfFields rest)
end

example : depth (.array [.null, .object [("a", .array [])]]) = 3 := by decide

/-! ## Values that have a text

No object of a readable value names a field twice, and every integer fits into 64
bits, signed or unsigned. `FloatFree` values hold no floating-point number. -/

def JsonNumberFits : JsonNumber → Prop
  | .integer value => -0x8000000000000000 ≤ value ∧ value < 0x10000000000000000
  | .float _ => True

mutual
def WellFormed : Json → Prop
  | number value => JsonNumberFits value
  | array items => WellFormedItems items
  | object fields => (fields.map Prod.fst).Nodup ∧ WellFormedFields fields
  | _ => True

def WellFormedItems : List Json → Prop
  | [] => True
  | item :: rest => item.WellFormed ∧ WellFormedItems rest

def WellFormedFields : Fields → Prop
  | [] => True
  | (_, value) :: rest => value.WellFormed ∧ WellFormedFields rest
end

mutual
def FloatFree : Json → Prop
  | number (.float _) => False
  | array items => FloatFreeItems items
  | object fields => FloatFreeFields fields
  | _ => True

def FloatFreeItems : List Json → Prop
  | [] => True
  | item :: rest => item.FloatFree ∧ FloatFreeItems rest

def FloatFreeFields : Fields → Prop
  | [] => True
  | (_, value) :: rest => value.FloatFree ∧ FloatFreeFields rest
end

end Json

/-! ## Fields of an object -/

namespace Fields

def names (fields : Fields) : List String :=
  fields.map Prod.fst

def get? (name : String) : Fields → Option Json
  | [] => none
  | (other, value) :: rest => if other = name then some value else get? name rest

def contains (name : String) (fields : Fields) : Bool :=
  (get? name fields).isSome

/-- Give a field a value; a name that is new is appended. -/
def put (name : String) (value : Json) : Fields → Fields
  | [] => [(name, value)]
  | (other, old) :: rest =>
      if other = name then (name, value) :: rest else (other, old) :: put name value rest

/-- Take a field out. The last field moves into its place. -/
def remove (name : String) : Fields → Fields
  | [] => []
  | (other, value) :: rest =>
      if other = name then
        match rest.getLast? with
        | none => []
        | some last => last :: rest.dropLast
      else (other, value) :: remove name rest

example : names (remove "a" [("a", .null), ("b", .null), ("c", .null)]) = ["c", "b"] := by decide

example : names (remove "b" [("a", .null), ("b", .null), ("c", .null)]) = ["a", "c"] := by decide

def putIfAbsent (name : String) (value : Json) (fields : Fields) : Fields :=
  if contains name fields then fields else fields ++ [(name, value)]

theorem put_of_absent {name : String} (value : Json) {fields : Fields}
    (absent : get? name fields = none) : put name value fields = fields ++ [(name, value)] := by
  induction fields with
  | nil => rfl
  | cons head rest induction =>
      by_cases equal : head.1 = name
      · simp [get?, equal] at absent
      · simp only [get?, equal, if_false] at absent
        simp [put, equal, induction absent]

theorem remove_of_absent {name : String} {fields : Fields}
    (absent : get? name fields = none) : remove name fields = fields := by
  induction fields with
  | nil => rfl
  | cons head rest induction =>
      by_cases equal : head.1 = name
      · simp [get?, equal] at absent
      · simp only [get?, equal, if_false] at absent
        simp [remove, equal, induction absent]

end Fields

end StoreMigration
