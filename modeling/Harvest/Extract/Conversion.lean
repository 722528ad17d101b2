import Harvest.Scalar
import Harvest.Spec.Tag
/-!
# Texts and JSON values as values of a type

The scalar of a text, the list of several texts, and the scalars and lists of JSON values.  A list fails as a whole at
the first of its items that fails.
-/
namespace Harvest.Extract

def convertAll {α β : Type} (f : α → Except ExtractError β) : List α → Except ExtractError (List β)
  | [] => .ok []
  | a :: as =>
    match f a with
    | .error e => .error e
    | .ok b => (convertAll f as).map (b :: ·)

/-- A text as a scalar of a type, a string if the type is none of a number or a truth value. -/
def scalarOfText (tag : Tag) (text : String) : Except ExtractError Value :=
  match tag with
  | .int => (Scalar.int text).map .int
  | .float => (Scalar.float text).map .float
  | .bool => (Scalar.bool text).map .bool
  | _ => .ok (.string text)

def listOfTexts (tag : Tag) (texts : List String) : Except ExtractError Value :=
  match tag with
  | .ints => (convertAll Scalar.int texts).map .ints
  | .floats => (convertAll Scalar.float texts).map .floats
  | .bools => (convertAll Scalar.bool texts).map .bools
  | _ => .ok (.strings texts)

/-- The integer of 64 bits that a number is. -/
def exactInt? : Json.Number → Option Int64
  | .int n => if -0x8000000000000000 ≤ n && n < 0x8000000000000000 then some (Int64.ofInt n) else none
  | .float x => x.integer?.bind fun n => if -0x8000000000000000 ≤ n && n < 0x8000000000000000 then some (Int64.ofInt n) else none

def intOfJson (j : Json) : Except ExtractError Int64 :=
  match j with
  | .number n =>
    match exactInt? n with
    | some i => .ok i
    | none => .error (.decode (.jsonNotInteger j))
  | .string s => Scalar.int s
  | _ => .error (.decode (.jsonNotInteger j))

/-- A JSON value as a floating-point number. -/
def floatOfJson (j : Json) : Except ExtractError Binary64 :=
  match j with
  | .number n => .ok n.toFloat
  | .string s => Scalar.float s
  | _ => .error (.decode (.jsonNotNumber j))

def boolOfJson (j : Json) : Except ExtractError Bool :=
  match j with
  | .bool b => .ok b
  | .string s => Scalar.bool s
  | _ => .error (.decode (.jsonNotBoolean j))

def stringOfJson (j : Json) : Except ExtractError String :=
  match j with
  | .string s => .ok s
  | .number n => .ok n.render
  | .bool b => .ok (Value.boolText b)
  | _ => .error (.decode (.jsonNotString j))

/-- The items of a JSON array, converted. -/
def itemsOfJson {α : Type} (f : Json → Except ExtractError α) (j : Json) : Except ExtractError (List α) :=
  match j with
  | .array items => convertAll f items
  | _ => .error (.decode (.jsonNotArray j))

end Harvest.Extract
