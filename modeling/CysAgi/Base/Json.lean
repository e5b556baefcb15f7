import Mathlib.Data.Rat.Defs
import CysAgi.Base.Dict

namespace Py

/-- A JSON value as Python's json module delivers it. A float is its exact rational
    value; a dict keeps its insertion order. -/
inductive Json where
  | null
  | bool (value : Bool)
  | int (value : Int)
  | float (value : Rat)
  | str (value : String)
  | arr (items : List Json)
  | obj (fields : List (String × Json))
  deriving Inhabited

abbrev JsonDict := List (String × Json)

mutual

def Json.beq : Json → Json → Bool
  | .null, .null => true
  | .bool a, .bool b => a == b
  | .int a, .int b => a == b
  | .float a, .float b => a == b
  | .str a, .str b => a == b
  | .arr a, .arr b => Json.beqItems a b
  | .obj a, .obj b => Json.beqFields a b
  | _, _ => false

def Json.beqItems : List Json → List Json → Bool
  | [], [] => true
  | a :: as, b :: bs => Json.beq a b && Json.beqItems as bs
  | _, _ => false

def Json.beqFields : JsonDict → JsonDict → Bool
  | [], [] => true
  | (k, a) :: as, (l, b) :: bs => k == l && Json.beq a b && Json.beqFields as bs
  | _, _ => false

end

mutual

theorem Json.beq_iff : ∀ a b : Json, Json.beq a b = true ↔ a = b
  | .null, b => by cases b <;> simp [Json.beq]
  | .bool a, b => by cases b <;> simp [Json.beq]
  | .int a, b => by cases b <;> simp [Json.beq]
  | .float a, b => by cases b <;> simp [Json.beq]
  | .str a, b => by cases b <;> simp [Json.beq]
  | .arr a, b => by cases b <;> simp [Json.beq, Json.beqItems_iff a]
  | .obj a, b => by cases b <;> simp [Json.beq, Json.beqFields_iff a]

theorem Json.beqItems_iff : ∀ a b : List Json, Json.beqItems a b = true ↔ a = b
  | [], b => by cases b <;> simp [Json.beqItems]
  | a :: as, b => by cases b <;> simp [Json.beqItems, Json.beq_iff a, Json.beqItems_iff as]

theorem Json.beqFields_iff : ∀ a b : JsonDict, Json.beqFields a b = true ↔ a = b
  | [], b => by cases b <;> simp [Json.beqFields]
  | (k, a) :: as, b => by
    rcases b with _ | ⟨⟨l, b⟩, bs⟩ <;>
      simp [Json.beqFields, Json.beq_iff a, Json.beqFields_iff as, and_assoc]

end

instance : DecidableEq Json := fun a b => decidable_of_iff _ (Json.beq_iff a b)

namespace JsonDict

def get? (d : JsonDict) (key : String) : Option Json := d.lookup key

def getD (d : JsonDict) (key : String) (default : Json) : Json := (get? d key).getD default

def has (d : JsonDict) (key : String) : Bool := (get? d key).isSome

def set (d : JsonDict) (key : String) (value : Json) : JsonDict := Assoc.set d key value

/-- `{**d, **other}`. -/
def update (d other : JsonDict) : JsonDict := other.foldl (fun merged field => merged.set field.1 field.2) d

end JsonDict

namespace Json

/-- `bool(value)`. -/
def truthy : Json → Bool
  | .null => false
  | .bool b => b
  | .int n => n != 0
  | .float q => q != 0
  | .str s => s != ""
  | .arr items => !items.isEmpty
  | .obj fields => !fields.isEmpty

/-- `float(value)`, given what it makes of a string. -/
def toFloat {ε : Type} (typeError : ε) (parse : String → Except ε Rat) : Json → Except ε Rat
  | .bool value => .ok (if value then 1 else 0)
  | .int value => .ok value
  | .float value => .ok value
  | .str text => parse text
  | _ => .error typeError

def isList : Json → Bool
  | .arr _ => true
  | _ => false

/-- Whether a set lookup of the value raises `TypeError: unhashable type`. -/
def unhashable : Json → Bool
  | .arr _ => true
  | .obj _ => true
  | _ => false

def asText : Json → Option String
  | .str text => some text
  | _ => none

def asDict : Json → Option JsonDict
  | .obj fields => some fields
  | _ => none

end Json

/-- `d.get(key, default)`, as pydantic takes it. -/
def field {α : Type} (parse : Json → Option α) (d : JsonDict) (key : String) (default : α) : Option α :=
  match JsonDict.get? d key with
  | none => some default
  | some value => parse value

end Py
