import Harvest.Css.Chain
import Harvest.Extract.Match
import Harvest.Filter.Chain
import Harvest.Json.Path
import Harvest.Spec.Basic
/-!
# What an evaluation works on

The state that an evaluation carries along: the document, which selectors may prune, what has been read of selectors
and filters so far, and the state that filters act on.  A step that fails keeps what it has changed.
-/
namespace Harvest.Extract

/-- What has been read so far, by the text that it was read from. -/
structure Cache where
  chains : Fields Css.Chain := []
  paths : Fields Json.Path := []
  patterns : Fields Pattern.Regex := []
  filters : Fields (List Filter.Call) := []

/-- What an evaluation carries along; pages that are no documents leave the document alone. -/
structure State (σ : Type) where
  document : Markup.Document
  cache : Cache
  outside : σ

/-- A step of an evaluation. -/
abbrev Run (σ α : Type) := ExceptT ExtractError (StateM (State σ)) α

namespace Run

variable {σ α : Type}

/-- A step from its effect. -/
def of (f : State σ → Except ExtractError α × State σ) : Run σ α := f

def lift (r : Except ExtractError α) : Run σ α := of fun s => (r, s)

/-- Goes on without a value where a step fails, unless the failure ends the whole evaluation. -/
def attempt (x : Run σ α) : Run σ (Option α) := of fun s =>
  match x s with
  | (.ok a, s) => (.ok (some a), s)
  | (.error e, s) => (if e.isFatal then .error e else .ok none, s)

/-- Reads something, or takes what has been read of the same text before; failures are not kept. -/
def once (entries : Cache → Fields α) (keep : Cache → Fields α → Cache) (key : String)
    (read : Unit → Except ExtractError α) : Run σ α := of fun s =>
  match (entries s.cache).find? key with
  | some a => (.ok a, s)
  | none =>
    match read () with
    | .ok a => (.ok a, { s with cache := keep s.cache ((entries s.cache).insert key a) })
    | .error e => (.error e, s)

def chain (raw : String) : Run σ Css.Chain :=
  once Cache.chains (fun c fs => { c with chains := fs }) raw fun _ => Css.Chain.parse raw

def path (raw : String) : Run σ Json.Path :=
  once Cache.paths (fun c fs => { c with paths := fs }) raw fun _ => Json.Path.parse raw

/-- The compiled pattern of a pattern selector. -/
def pattern (engine : Pattern.Engine) (text : String) : Run σ Pattern.Regex :=
  once Cache.patterns (fun c fs => { c with patterns := fs }) (patternKey engine text) fun _ =>
    compilePattern engine text

def calls (expr : String) : Run σ (List Filter.Call) :=
  once Cache.filters (fun c fs => { c with filters := fs }) expr fun _ => .ok (Filter.Call.parse expr)

def filtered (r : Registry σ) (calls : List Filter.Call) (value : Value) : Run σ Value := of fun s =>
  match Filter.Chain.run r calls value s.outside with
  | (.ok v, t) => (.ok v, { s with outside := t })
  | (.error (.rejected filter v), t) => (.error (.invalidContent filter v), { s with outside := t })
  | (.error (.panicked p), t) => (.error (.panic p), { s with outside := t })

/-- Runs a selector chain on the document. -/
def select (c : Css.Chain) (context : List Nat) : Run σ (List Nat) := of fun s =>
  let r := c.run s.document context
  (.ok r.2, { s with document := r.1 })

def look (f : Markup.Document → Except ExtractError α) : Run σ α := of fun s => (f s.document, s)

/-- The results of those items that do not fail, in order. -/
def survivors {β : Type} (f : β → Run σ α) : List β → Run σ (List α)
  | [] => pure []
  | b :: bs => do
    let a ← attempt (f b)
    return a.toList ++ (← survivors f bs)

/-- The results of those specs that do not fail, by name; of two of one name the later one counts. -/
def fields (f : Spec → Run σ Value) (acc : Fields Value) : List Spec → Run σ (Fields Value)
  | [] => pure acc
  | c :: cs => do
    match ← attempt (f c) with
    | some v => fields f (acc.insert c.name v) cs
    | none => fields f acc cs

end Run

end Harvest.Extract
