import Harvest.Json.Source
import Harvest.Extract.Evaluator
/-!
# Options of evaluations

The options as a JSON text: an object whose fields may be missing, or an array of them in their order.
-/
namespace Harvest.Extract

open Harvest.Json (Source)

/-- What can be set for an evaluation. -/
structure Options where
  /-- The deepest level of a spec that may be entered, where its root is at level zero. -/
  maxDepth : Nat := 64
  deriving DecidableEq, Repr

namespace Options

/-- The natural number below 2^64 of a JSON number. -/
def natural? : Source → Option Nat
  | .number l =>
    match l.number? with
    | some (.int n) => if 0 ≤ n then some n.toNat else none
    | _ => none
  | _ => none

/-- The options with the fields of an object, none of which comes twice; `seen` says whether the depth has come. -/
def ofFields? (o : Options) (seen : Bool) : List (Option String × Source) → Option Options
  | [] => some o
  | (none, _) :: _ => none
  | (some name, value) :: rest =>
    if name != "max_depth" then ofFields? o seen rest
    else if seen then none
    else match natural? value with
      | some n => ofFields? { o with maxDepth := n } true rest
      | none => none

def parse? (text : String) : Option Options :=
  match Source.parse? text.toList with
  | some (.object fields) => ofFields? {} false fields
  | some (.array []) => some {}
  | some (.array [n]) => (natural? n).map fun maxDepth => { maxDepth }
  | _ => none

end Options

end Harvest.Extract
