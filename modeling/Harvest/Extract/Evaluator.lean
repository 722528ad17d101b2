import Harvest.Extract.Conversion
import Harvest.Extract.Page
import Harvest.Extract.State
/-!
# Evaluation

A spec is evaluated from its root: each node finds what it works on, takes a value of its type from there, and runs its
filters on it.  Markup, JSON and texts each have their own rule for one node, given the evaluation of nodes one level
below; patterns work on all of them through the text of what the node works on.  Lists and records leave out what fails
below them, but going too deep ends everything.
-/
namespace Harvest.Extract

/-- Evaluates specs with a registry of filters, down to a deepest level. -/
structure Evaluator (σ : Type) where
  registry : Registry σ
  maxDepth : Nat := 64

/-- The evaluation of JSON values and of texts on some level. -/
structure Below (σ : Type) where
  json : Spec → Json → Run σ Value
  text : Spec → String → Run σ Value

namespace Evaluator

variable {σ : Type}

/-- Runs the filters of a node on its value. -/
def finish (e : Evaluator σ) (spec : Spec) (value : Value) : Run σ Value :=
  if spec.filter.isEmpty then pure value
  else do Run.filtered e.registry (← Run.calls spec.filter) value

/-- Runs the filters of a node on what it was converted to. -/
def finishWith (e : Evaluator σ) (spec : Spec) (value : Except ExtractError Value) : Run σ Value := do
  e.finish spec (← Run.lift value)

def record (e : Evaluator σ) (spec : Spec) (child : Spec → Run σ Value) : Run σ Value :=
  if spec.namedChildren.isEmpty then throw (.schema .noNamedChild)
  else do e.finish spec (.map (← Run.fields child [] spec.namedChildren))

/-- The list of what the one child takes from each of several elements. -/
def each {α : Type} (e : Evaluator σ) (spec : Spec) (elements : List α) (item : Spec → α → Run σ Value) :
    Run σ Value := do
  let template ← Run.lift spec.template
  e.finish spec (.array (← Run.survivors (item template) elements))

/-- What the one child takes from the JSON document in a text. -/
def embedded (e : Evaluator σ) (below : Below σ) (spec : Spec) (text : String) : Run σ Value := do
  let template ← Run.lift spec.template
  let j ← Run.lift (Scalar.embedded text)
  e.finish spec (← below.json template j)

def jsonOfText (e : Evaluator σ) (spec : Spec) (text : String) : Run σ Value :=
  e.finishWith spec ((Scalar.embedded text).map .json)

/-- No value of the type can be taken from such a page. -/
def unsupported (spec : Spec) (kind : PageKind) : Run σ Value :=
  throw (.unsupportedType spec.tag.toText kind.name)

/-- One node with a pattern for its selector; `text` is that of what the node works on. -/
def patternNode (e : Evaluator σ) (below : Below σ) (spec : Spec) (engine : Pattern.Engine) (pattern text : String)
    (kind : PageKind) : Run σ Value := do
  let groups ← Run.lift (firstMatch (← Run.pattern engine pattern) text)
  let scalar : Except ExtractError String := match groups with
    | some gs => .ok (Pattern.scalarOf gs)
    | none => .error (.nodeNotFound (.pattern (patternKey engine pattern)))
  match spec.tag with
  | .int | .float | .bool | .string | .text => e.finishWith spec (scalar.bind (scalarOfText spec.tag))
  | .ints | .floats | .bools | .strings | .texts =>
    e.finishWith spec (listOfTexts spec.tag ((groups.map Pattern.listOf).getD []))
  | .jsonParse => e.embedded below spec (← Run.lift scalar)
  | .json => e.jsonOfText spec (← Run.lift scalar)
  | .map =>
    let text ← Run.lift scalar
    e.record spec fun child => below.text child text
  | _ => unsupported spec kind

def textNode (e : Evaluator σ) (below : Below σ) (spec : Spec) (text : String) : Run σ Value :=
  match spec.selector with
  | .pattern engine pattern => e.patternNode below spec engine pattern text .text
  | _ =>
    match spec.tag with
    | .int | .float | .bool | .string | .text => e.finishWith spec (scalarOfText spec.tag text)
    | .jsonParse => e.embedded below spec text
    | .json => e.jsonOfText spec text
    | .map => e.record spec fun child => below.text child text
    | _ => unsupported spec .text

/-- One node on the JSON value that its selector leads to. -/
def jsonTarget (e : Evaluator σ) (below : Below σ) (spec : Spec) (target : Json) : Run σ Value :=
  match spec.tag with
  | .int => e.finishWith spec ((intOfJson target).map .int)
  | .float => e.finishWith spec ((floatOfJson target).map .float)
  | .bool => e.finishWith spec ((boolOfJson target).map .bool)
  | .string | .text => e.finishWith spec ((stringOfJson target).map .string)
  | .ints => e.finishWith spec ((itemsOfJson intOfJson target).map .ints)
  | .floats => e.finishWith spec ((itemsOfJson floatOfJson target).map .floats)
  | .bools => e.finishWith spec ((itemsOfJson boolOfJson target).map .bools)
  | .strings | .texts => e.finishWith spec ((itemsOfJson stringOfJson target).map .strings)
  | .json =>
    match target with
    | .string text => e.jsonOfText spec text
    | _ => e.finish spec (.json target)
  | .jsonParse =>
    match target with
    | .string text => e.embedded below spec text
    | .object _ | .array _ => do
      let template ← Run.lift spec.template
      e.finish spec (← below.json template target)
    | _ => throw (.decode (.noText target))
  | .array =>
    match target with
    | .array items => e.each spec items below.json
    | _ => throw (.decode (.noItems target))
  | .map => e.record spec fun child => below.json child target
  | _ => unsupported spec .json

def jsonNode (e : Evaluator σ) (below : Below σ) (spec : Spec) (j : Json) : Run σ Value :=
  match spec.selector with
  | .pattern engine pattern => e.patternNode below spec engine pattern j.render .json
  | .current => e.jsonTarget below spec j
  | .native raw => do
    let path ← Run.path raw
    e.jsonTarget below spec (← Run.lift (path.resolve j))

/-- The attribute of the first of some nodes. -/
def firstAttr (nodes : List Nat) (name shown : String) : Run σ Value :=
  Run.look fun d =>
    match nodes.head?.bind fun i => d.attr? i name with
    | some v => .ok (.string v)
    | none => .error (.nodeNotFound (.attr name shown))

def content (nodes : List Nat) (mode : Css.Mode) (shown : String) : Run σ String :=
  Run.look fun d =>
    match mode.readAll d nodes with
    | .ok (some text) => .ok text
    | .ok none => .error (.nodeNotFound (.content shown))
    | .error e => .error e

def contents (nodes : List Nat) (mode : Css.Mode) : Run σ (List String) := Run.look fun d => mode.readEach d nodes

/-- One node of a spec on the nodes that its selector leads to. -/
def htmlTarget (e : Evaluator σ) (below : Below σ) (inside : Spec → List Nat → Run σ Value) (spec : Spec)
    (nodes : List Nat) (mode : Css.Mode) (shown : String) : Run σ Value := do
  match spec.tag with
  | .int | .float | .bool | .string | .text =>
    e.finishWith spec (scalarOfText spec.tag (← content nodes mode shown))
  | .ints | .floats | .bools | .strings | .texts =>
    e.finishWith spec (listOfTexts spec.tag (← contents nodes mode))
  | .html => e.finish spec (.string (← content nodes .inner shown))
  | .outHtml => e.finish spec (.string (← content nodes .outer shown))
  | .href => e.finish spec (← firstAttr nodes "href" shown)
  | .src => e.finish spec (← firstAttr nodes "src" shown)
  | .alt => e.finish spec (← firstAttr nodes "alt" shown)
  | .attr name => e.finish spec (← firstAttr nodes name shown)
  | .hrefs => e.finish spec (.strings (← contents nodes (.attr "href")))
  | .attrs name => e.finish spec (.strings (← contents nodes (.attr name)))
  | .jsonParse => e.embedded below spec (← content nodes mode shown)
  | .json => e.jsonOfText spec (← content nodes mode shown)
  | .array => e.each spec nodes fun template i => inside template [i]
  | .map => e.record spec fun child => inside child nodes
  | .unknown _ => unsupported spec .html

/-- One node of a spec on nodes of the document. -/
def htmlNode (e : Evaluator σ) (below : Below σ) (inside : Spec → List Nat → Run σ Value) (spec : Spec)
    (context : List Nat) : Run σ Value :=
  match spec.selector with
  | .pattern engine pattern => do
    let text ← Run.look fun d => match context with
      | i :: _ => d.inner i
      | [] => .ok ""
    e.patternNode below spec engine pattern text .html
  | .current =>
    if context.isEmpty then throw (.nodeNotFound (.selector ""))
    else e.htmlTarget below inside spec context .text ""
  | .native raw => do
    let chain ← Run.chain raw
    let nodes ← Run.select chain context
    if nodes.isEmpty then throw (.nodeNotFound (.selector raw))
    else e.htmlTarget below inside spec nodes chain.mode raw

/-- The evaluation of JSON values and texts where `levels` levels are left. -/
def below (e : Evaluator σ) : Nat → Below σ
  | 0 => ⟨fun _ _ => throw (.depthExceeded e.maxDepth), fun _ _ => throw (.depthExceeded e.maxDepth)⟩
  | levels + 1 => ⟨fun spec j => e.jsonNode (e.below levels) spec j, fun spec t => e.textNode (e.below levels) spec t⟩

/-- The evaluation of nodes of the document where `levels` levels are left. -/
def inside (e : Evaluator σ) : Nat → Spec → List Nat → Run σ Value
  | 0, _, _ => throw (.depthExceeded e.maxDepth)
  | levels + 1, spec, context => e.htmlNode (e.below levels) (e.inside levels) spec context

/-- Evaluates a spec on a page: the outcome, the page as it then is, what has been read, and the state of the filters. -/
def evaluate (e : Evaluator σ) (spec : Spec) (page : Page) (cache : Cache) (outside : σ) :
    Except ExtractError Value × Page × Cache × σ :=
  match page with
  | .html d =>
    match e.inside (e.maxDepth + 1) spec [0] ⟨d, cache, outside⟩ with
    | (r, s) => (r, .html s.document, s.cache, s.outside)
  | .json j =>
    match (e.below (e.maxDepth + 1)).json spec j ⟨default, cache, outside⟩ with
    | (r, s) => (r, page, s.cache, s.outside)
  | .text t =>
    match (e.below (e.maxDepth + 1)).text spec t ⟨default, cache, outside⟩ with
    | (r, s) => (r, page, s.cache, s.outside)

/-- Reads a body and evaluates a spec on it. -/
def pipe (e : Evaluator σ) (spec : Spec) (body : List UInt8) (kind : PageKind) (outside : σ) :
    Except ExtractError Value × σ :=
  match Page.parse body kind with
  | .error err => (.error err, outside)
  | .ok page =>
    match e.evaluate spec page {} outside with
    | (r, _, _, outside) => (r, outside)

end Evaluator

end Harvest.Extract
