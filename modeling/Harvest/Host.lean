import Harvest.Extract.Evaluator
import Harvest.Filter.Builtin
import Harvest.Filter.Remote
import Harvest.Spec.Text
/-!
# The entry point for hosts

A host passes a body as bytes, and the kind of page and the spec as strings that end at their first zero byte; each of
them may be missing.  It gets either a JSON text or the text of a failure, unless the evaluation takes the whole process
down.
-/
namespace Harvest.Host

/-- What a host gets: one of two texts, neither of which has a zero byte in it. -/
structure Reply where
  json : Option String
  failure : Option String
  deriving DecidableEq, Repr

/-- How a call ends: in a reply, or with the process. -/
inductive Outcome where
  | replied (reply : Reply)
  | aborted
  deriving DecidableEq, Repr

def failed (message : String) : Reply :=
  ⟨none, some (String.ofList (message.toList.map fun c => if c.toNat == 0 then ' ' else c))⟩

def answered (j : Json) : Reply :=
  let text := j.render
  if text.toList.any fun c => c.toNat == 0 then failed "Result JSON contains null bytes" else ⟨some text, none⟩

/-- The text of a string that ends at its first zero byte; `what` names it in a message. -/
def text (what : String) : Option (List UInt8) → Except String String
  | none => .error (what ++ " is null")
  | some bytes =>
    match Text.Utf8.toString? (bytes.takeWhile (· != 0)) with
    | some s => .ok s
    | none => .error ("Invalid UTF-8 in " ++ what)

/-- The registry that all calls share: the built-in filters, registered one after the other. -/
def registry (clock : Filter.Clock) : Except RegistryError (Registry Unit) :=
  match Filter.Remote.registerAll .empty (Filter.transforms Unit clock ++ Filter.validators Unit) with
  | (r, .ok ()) => .ok r
  | (_, .error e) => .error e

def withRegistry (clock : Filter.Clock) (f : Registry Unit → Outcome) : Outcome :=
  match registry clock with
  | .ok r => f r
  | .error e => .replied (failed ("filter registry unavailable: " ++ e.message))

/-- What an evaluation ends in for a host. -/
def ended (w : Wording) : Except ExtractError Value → Outcome
  | .ok v => .replied (answered v.toJson)
  | .error e => if e.isPanic then .aborted else .replied (failed (e.message w))

/-- Evaluates a spec on a body; one that is missing is empty. -/
def pipe (w : Wording) (clock : Filter.Clock) (body kind spec : Option (List UInt8)) : Outcome :=
  match text "page kind" kind with
  | .error m => .replied (failed m)
  | .ok kind =>
    match Extract.PageKind.ofText kind with
    | .error e => .replied (failed (e.message w))
    | .ok kind =>
      match text "spec JSON" spec with
      | .error m => .replied (failed m)
      | .ok spec =>
        match Spec.parse spec with
        | .error e => .replied (failed (e.message w))
        | .ok spec => withRegistry clock fun r =>
          ended w ((⟨r, 64⟩ : Extract.Evaluator Unit).pipe spec (body.getD []) kind ()).1

/-- What a listing says about a filter, as a JSON object. -/
def infoJson (i : FilterInfo) : Json :=
  .object [("description", .string i.description), ("name", .string i.name), ("usage", .string i.usage)]

def listFilters (clock : Filter.Clock) : Outcome :=
  withRegistry clock fun r => .replied (answered (.array (r.describe.map infoJson)))

end Harvest.Host
