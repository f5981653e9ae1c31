/-
Python values as the gateway's data holds them: what `json.loads` builds,
and the truth value of an optional string.
-/
import Mathlib.Init

namespace BasisGateway

/-- A `str | None` as a condition: the empty string is false like `None`. -/
def truthy : Option String → Bool
  | some s => s ≠ ""
  | none => false

@[simp] theorem truthy_none : truthy none = false := rfl

@[simp] theorem truthy_some (s : String) : truthy (some s) = decide (s ≠ "") := rfl

theorem isSome_of_truthy {s : Option String} (h : truthy s = true) : s.isSome = true := by
  cases s with
  | none => simp at h
  | some _ => rfl

/-- A JSON value. A float is its `repr`; an object keeps its keys in order. -/
inductive Json
  | null
  | bool (b : Bool)
  | int (n : Int)
  | float (repr : String)
  | str (s : String)
  | arr (items : List Json)
  | obj (fields : List (String × Json))
  deriving Repr, Inhabited

/-- `type(value).__name__`. -/
def Json.typeName : Json → String
  | .null => "NoneType"
  | .bool _ => "bool"
  | .int _ => "int"
  | .float _ => "float"
  | .str _ => "str"
  | .arr _ => "list"
  | .obj _ => "dict"

/-- `d.get(key)` on an object. -/
def Json.get? (key : String) : List (String × Json) → Option Json
  | [] => none
  | (k, v) :: rest => if k = key then some v else get? key rest

end BasisGateway
