import Mathlib.Logic.Basic

/-!
The values that cross an activity or workflow boundary: what Python's `json`
module produces, with the keys of an object in insertion order.
-/
namespace Automation

inductive Json where
  | null
  | bool (b : Bool)
  | int (n : Int)
  | float (text : String)
  | str (s : String)
  | arr (items : List Json)
  | obj (fields : List (String × Json))

namespace Json

/-- `dict.get(key)`, with `None` for an absent key and for any other value. -/
def get (j : Json) (key : String) : Json :=
  match j with
  | .obj fields => (fields.lookup key).getD .null
  | _ => .null

/-- `key in dict`. -/
def has (j : Json) (key : String) : Bool :=
  match j with
  | .obj fields => (fields.lookup key).isSome
  | _ => false

/-- `bool(value)`. A float is carried as its `repr`. -/
def truthy : Json → Bool
  | .null => false
  | .bool b => b
  | .int n => n != 0
  | .float text => text != "0.0" && text != "-0.0"
  | .str s => s != ""
  | .arr items => !items.isEmpty
  | .obj fields => !fields.isEmpty

/-- `left or right`. -/
def orElse (left right : Json) : Json := if left.truthy then left else right

/-- `str(value)`; the `repr` of a list or a dict is left to the caller. -/
def pyStr (repr : Json → String) : Json → String
  | .null => "None"
  | .bool true => "True"
  | .bool false => "False"
  | .int n => toString n
  | .float text => text
  | .str s => s
  | value => repr value

/-- A value where Python expects a string or `None`. -/
def asStr : Json → Option String
  | .str s => some s
  | _ => none

def isObj : Json → Bool
  | .obj _ => true
  | _ => false

def ofOption : Option String → Json
  | some s => .str s
  | none => .null

end Json
end Automation
