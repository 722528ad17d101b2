import Harvest.Fields
import Harvest.Number.Decimal
/-!
# JSON values

A number is an integer of 64 bits, signed or unsigned, or a floating-point number.  An object's fields have distinct
names in increasing order.  `render` writes the compact text.
-/
namespace Harvest

/-- A JSON number. -/
inductive Json.Number where
  /-- From `-2 ^ 63` up to but not including `2 ^ 64`. -/
  | int (n : Int)
  | float (x : Binary64)
  deriving DecidableEq, Repr

/-- A JSON value. -/
inductive Json where
  | null
  | bool (b : Bool)
  | number (n : Json.Number)
  | string (s : String)
  | array (items : List Json)
  | object (fields : List (String × Json))
  deriving Repr, Inhabited

namespace Json

def Number.render : Number → String
  | int n => Text.Numeral.ofInt n
  | float x => Decimal.json x

def Number.toFloat : Number → Binary64
  | int n => .ofInt n
  | float x => x

/-- The digit `d < 16` in lower case. -/
def hexDigit (d : Nat) : Char :=
  if d < 10 then Char.ofNat (0x30 + d) else Char.ofNat (0x57 + d)

def escapeChar (c : Char) : List Char :=
  if c == '"' then ['\\', '"'] else if c == '\\' then ['\\', '\\']
  else match c.toNat with
    | 8 => ['\\', 'b']
    | 9 => ['\\', 't']
    | 10 => ['\\', 'n']
    | 12 => ['\\', 'f']
    | 13 => ['\\', 'r']
    | n => if n < 0x20 then ['\\', 'u', '0', '0', hexDigit (n / 16), hexDigit (n % 16)] else [c]

def quoted (s : String) : List Char := '"' :: (s.toList.flatMap escapeChar ++ ['"'])

mutual
def write : Json → List Char
  | .null => ['n', 'u', 'l', 'l']
  | .bool true => ['t', 'r', 'u', 'e']
  | .bool false => ['f', 'a', 'l', 's', 'e']
  | .number n => n.render.toList
  | .string s => quoted s
  | .array [] => ['[', ']']
  | .array (x :: xs) => '[' :: (write x ++ writeItems xs)
  | .object [] => ['{', '}']
  | .object ((k, x) :: xs) => '{' :: (quoted k ++ ':' :: (write x ++ writeFields xs))

/-- The items after the first of an array, and its end. -/
def writeItems : List Json → List Char
  | [] => [']']
  | x :: xs => ',' :: (write x ++ writeItems xs)

/-- The fields after the first of an object, and its end. -/
def writeFields : List (String × Json) → List Char
  | [] => ['}']
  | (k, x) :: xs => ',' :: (quoted k ++ ':' :: (write x ++ writeFields xs))
end

/-- The compact text of a value, as a string. -/
def render (j : Json) : String := String.ofList j.write

/-- The array or object of a value that is one. -/
def container? : Json → Option Json
  | .array items => some (.array items)
  | .object fields => some (.object fields)
  | _ => none

end Json

end Harvest
