import Harvest.Error
import Harvest.Json.Source
import Harvest.Text.Blank
/-!
# Texts read as scalars and as JSON

Numbers and truth values of trimmed texts, and JSON objects and arrays that a text holds, either plainly or in quoted
form.
-/
namespace Harvest.Scalar

/-- The integer that a text denotes. -/
def int (text : String) : Except ExtractError Int64 :=
  match Text.Numeral.int64? (Text.trimBlank text.toList) with
  | some n => .ok n
  | none => .error (.decode (.notInteger text))

/-- The floating-point number that a text denotes. -/
def float (text : String) : Except ExtractError Binary64 :=
  match Decimal.read? (Text.trimBlank text.toList) with
  | some x => .ok x
  | none => .error (.decode (.notNumber text))

def bool (text : String) : Except ExtractError Bool :=
  let t := Text.trim text
  if ["1", "t", "T", "TRUE", "true", "True"].contains t then .ok true
  else if ["0", "f", "F", "FALSE", "false", "False"].contains t then .ok false
  else .error (.decode (.notBoolean t))

def container? (cs : List Char) : Option Json := (Json.parse? cs).bind Json.container?

/-- The object or array that a text holds; where it holds none, the one that its unquoted form holds. -/
def embedded (text : String) : Except ExtractError Json :=
  let cs := Text.trimBlank text.toList
  if cs.isEmpty then .error (.decode .emptyEmbedded)
  else match container? cs with
    | some j => .ok j
    | none =>
      match (Text.Quoted.decode cs).toOption.bind fun t => container? (Text.trimBlank t) with
      | some j => .ok j
      | none => .error (.decode (.notEmbedded (String.ofList (cs.take 40))))

end Harvest.Scalar
