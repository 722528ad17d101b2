import Harvest.Json.Basic
/-!
# Extracted values

What extraction yields and filters work on: scalars, lists of scalars of one kind, lists and records of any values, and
JSON.  `toJson` is a value's JSON form and `toText` the text that stands for it in a template.
-/
namespace Harvest

/-- An extracted value. -/
inductive Value where
  | int (n : Int64)
  | float (x : Binary64)
  | bool (b : Bool)
  | string (s : String)
  | ints (ns : List Int64)
  | floats (xs : List Binary64)
  | bools (bs : List Bool)
  | strings (ss : List String)
  /-- Values of any kinds. -/
  | array (items : List Value)
  /-- Fields with distinct names in increasing order. -/
  | map (fields : List (String × Value))
  | json (j : Json)
  deriving Repr, Inhabited

namespace Value

def kind : Value → String
  | int _ => "int"
  | float _ => "float"
  | bool _ => "bool"
  | string _ => "string"
  | ints _ => "int-array"
  | floats _ => "float-array"
  | bools _ => "bool-array"
  | strings _ => "string-array"
  | array _ => "array"
  | map _ => "map"
  | json _ => "json"

def string? : Value → Option String
  | string s => some s
  | _ => none

def ofInt64 (n : Int64) : Json := .number (.int n.toInt)

/-- The JSON form of a floating-point number: null for what is no finite number. -/
def ofFloat (x : Binary64) : Json := if x.isFinite then .number (.float x) else .null

mutual
def toJson : Value → Json
  | .int n => ofInt64 n
  | .float x => ofFloat x
  | .bool b => .bool b
  | .string s => .string s
  | .ints ns => .array (ns.map ofInt64)
  | .floats xs => .array (xs.map ofFloat)
  | .bools bs => .array (bs.map .bool)
  | .strings ss => .array (ss.map .string)
  | .array items => .array (itemsToJson items)
  | .map fields => .object (fieldsToJson fields)
  | .json j => j

def itemsToJson : List Value → List Json
  | [] => []
  | v :: vs => v.toJson :: itemsToJson vs

def fieldsToJson : List (String × Value) → List (String × Json)
  | [] => []
  | (k, v) :: fs => (k, v.toJson) :: fieldsToJson fs
end

def boolText (b : Bool) : String := if b then "true" else "false"

/-- The text that stands for a value in a template: a string as it is, a scalar in plain notation, anything else as
JSON. -/
def toText : Value → String
  | string s => s
  | int n => Text.Numeral.ofInt n.toInt
  | float x => Decimal.plain x
  | bool b => boolText b
  | json (.string s) => s
  | v => v.toJson.render

/-- The strings of a value that is a list of strings only. -/
def stringItems? : Value → Option (List String)
  | strings ss => some ss
  | array items => items.mapM string?
  | _ => none

end Value

end Harvest
