import Harvest.Css.Reader
import Harvest.Error
import Harvest.Markup.Render
import Harvest.Text.Numeral
/-!
# Selector chains

`ul > li | eq(1) | next//attr[href]`: a selector that finds elements below those of a context, operators that walk on
from them or choose among them, and what is read of the nodes in the end.  A chain takes a document and a list of its
nodes to a document and a list of nodes; only `rm` changes the document.
-/
namespace Harvest.Css

open Harvest.Markup (Document)

/-- What is read of a node. -/
inductive Mode where
  | text
  | attr (name : String)
  | inner
  | outer
  deriving DecidableEq, Repr

/-- Where an operator walks to from a node. -/
inductive Relation where
  | next
  | prev
  | nextAll
  | prevAll
  | siblings
  | children
  | parent
  | parents
  deriving DecidableEq, Repr

/-- One operator of a chain. -/
inductive Op where
  /-- The node of an index; negative ones count from the end. -/
  | eq (n : Int64)
  | first
  | last
  /-- The nodes of a relation, those only that a selector matches if there is one. -/
  | walk (relation : Relation) (among : Option Selector)
  | keep (s : Selector)
  | drop (s : Selector)
  /-- Takes what a selector finds below the nodes out of the document. -/
  | remove (s : Selector)
  /-- Changes nothing. -/
  | pass

/-- A selector chain. -/
structure Chain where
  /-- The text before the mode. -/
  source : String
  primary : Option Selector
  ops : List Op
  mode : Mode

/-! ## Reading -/

/-- The mode that a text names, that of the text if it names none. -/
def Mode.ofText (cs : List Char) : Mode :=
  match Text.after? "attr[".toList cs with
  | some rest =>
    if rest.getLast? == some ']' && 1 < rest.length then .attr (String.ofList rest.dropLast) else .text
  | none =>
    if cs == "html".toList then .inner else if cs == "outhtml".toList then .outer else .text

def Mode.toText : Mode → String
  | text => "text"
  | attr name => "attr[" ++ name ++ "]"
  | inner => "html"
  | outer => "outhtml"

def parse (text : String) : Except ExtractError Selector :=
  match parse? text with
  | some s => .ok s
  | none => .error (.selectorSyntax (.css text))

namespace Op

/-- The operators that walk along a relation. -/
def walks : List (String × Relation) := [
  ("next", .next), ("prev", .prev), ("nextall", .nextAll), ("siblings", .siblings), ("children", .children),
  ("parent", .parent), ("parents", .parents)]

/-- The operators that walk along a relation to what their selector matches. -/
def filteredWalks : List (String × Relation) := [
  ("nextfilter", .next), ("prevfilter", .prev), ("nextallfilter", .nextAll), ("prevallfilter", .prevAll),
  ("siblingsfilter", .siblings), ("childrenfilter", .children), ("parentfilter", .parent),
  ("parentsfilter", .parents)]

/-- An operator with a selector for its argument; without one it changes nothing. -/
def ofSelector (arg : String) (op : Selector → Op) : Except ExtractError Op :=
  if arg.isEmpty then .ok .pass else (parse arg).map op

/-- The operator of a name; names of none change nothing. -/
def ofName (name arg : String) : Except ExtractError Op :=
  match name with
  | "eq" => .ok (.eq ((Text.Numeral.int64? arg.toList).getD 0))
  | "first" => .ok .first
  | "last" => .ok .last
  | "filter" => ofSelector arg .keep
  | "not" => ofSelector arg .drop
  | "rm" => ofSelector arg .remove
  | _ =>
    match List.lookup name walks with
    | some r => .ok (.walk r none)
    | none =>
      match List.lookup name filteredWalks with
      | some r => ofSelector arg fun s => .walk r (some s)
      | none => .ok .pass

/-- What stands in the parentheses behind a name, nothing if there are none; a text with anything else is no
operator. -/
def argument? (cs : List Char) : Option (List Char) :=
  match cs.dropWhile Text.isBlank with
  | '(' :: rest => if rest.getLast? == some ')' then some (Text.trimBlank rest.dropLast) else none
  | [] => some []
  | _ => none

def parse (cs : List Char) : Except ExtractError Op :=
  let isNameChar (c : Char) : Bool := c.isAlpha || c == '_'
  let name := cs.takeWhile isNameChar
  match if name.isEmpty then none else argument? (cs.drop name.length) with
  | some arg => ofName (String.ofList name) (String.ofList arg)
  | none => .error (.selectorSyntax (.operator (String.ofList cs)))

end Op

namespace Chain

/-- The chain and the mode of a text: two slashes that are not at its start part them. -/
def cutMode (cs : List Char) : List Char × Mode :=
  match Text.cut? ['/', '/'] cs with
  | some (before, behind) =>
    if before.isEmpty then (Text.trimBlank cs, .text) else (Text.trimBlank before, .ofText (Text.trimBlank behind))
  | none => (Text.trimBlank cs, .text)

def parseOps : List (List Char) → Except ExtractError (List Op)
  | [] => .ok []
  | p :: ps =>
    match Op.parse p with
    | .error e => .error e
    | .ok op => (parseOps ps).map (op :: ·)

def parse (text : String) : Except ExtractError Chain :=
  let (cs, mode) := cutMode text.toList
  match (Text.splitAt '|' cs).map Text.trimBlank with
  | [] => .ok ⟨String.ofList cs, none, [], mode⟩
  | p :: ps =>
    match if p.isEmpty then .ok none else (Css.parse (String.ofList p)).map some with
    | .error e => .error e
    | .ok primary => (parseOps ps).map fun ops => ⟨String.ofList cs, primary, ops, mode⟩

end Chain

/-! ## Running -/

/-- The elements that a relation leads to from a node. -/
def Relation.targets (d : Document) (i : Nat) : Relation → List Nat
  | next => ((d.following i).filter d.isElement).take 1
  | prev => ((d.preceding i).filter d.isElement).take 1
  | nextAll => (d.following i).filter d.isElement
  | prevAll => (d.preceding i).filter d.isElement
  | siblings => (d.family i).filter fun j => d.isElement j && j != i
  | children => (d.children i).filter d.isElement
  | parent => (d.parent? i).toList.filter d.isElement
  | parents => (d.ancestors i).filter d.isElement

/-- The nodes that any of several nodes leads to, each at its first place. -/
def gather (f : Nat → List Nat) (nodes : List Nat) : List Nat := (nodes.flatMap f).eraseDups

/-- The elements below the nodes that a selector matches. -/
def find (d : Document) (s : Selector) (nodes : List Nat) : List Nat :=
  gather (fun i => (d.descendants i).filter (selects d s)) nodes

/-- The node of an index, where negative ones count from the end. -/
def pick (nodes : List Nat) (n : Int64) : List Nat :=
  let k := if n.toInt < 0 then nodes.length + n.toInt else n.toInt
  if k < 0 then [] else (nodes[k.toNat]?).toList

namespace Op

/-- Runs an operator. -/
def run (d : Document) (nodes : List Nat) : Op → Document × List Nat
  | eq n => (d, pick nodes n)
  | first => (d, nodes.take 1)
  | last => (d, nodes.getLast?.toList)
  | walk r none => (d, gather (r.targets d) nodes)
  | walk r (some s) => (d, (gather (r.targets d) nodes).filter (selects d s))
  | keep s => (d, nodes.filter (selects d s))
  | drop s => (d, nodes.filter fun i => d.isElement i && !selects d s i)
  | remove s => ((find d s nodes).foldl Document.remove d, nodes)
  | pass => (d, nodes)

def runAll (d : Document) (nodes : List Nat) : List Op → Document × List Nat
  | [] => (d, nodes)
  | op :: ops =>
    let r := op.run d nodes
    runAll r.1 r.2 ops

end Op

/-- Runs a chain from a context. -/
def Chain.run (c : Chain) (d : Document) (context : List Nat) : Document × List Nat :=
  Op.runAll d (match c.primary with
    | some s => find d s context
    | none => context) c.ops

/-! ## What is read of the nodes -/

/-- The text of one node in a mode, if it has one. -/
def Mode.read (d : Document) (m : Mode) (i : Nat) : Except ExtractError (Option String) :=
  match m with
  | text => .ok (some (d.text i))
  | attr name => .ok (d.attr? i name)
  | inner => (d.inner i).map some
  | outer => (d.outer i).map some

/-- The texts of nodes, without the nodes that have none. -/
def Mode.readEach (d : Document) (m : Mode) : List Nat → Except ExtractError (List String)
  | [] => .ok []
  | i :: is =>
    match m.read d i with
    | .error e => .error e
    | .ok s => (m.readEach d is).map fun ss => s.toList ++ ss

/-- The one text of nodes: the attribute of the first of them, or the texts of all joined. -/
def Mode.readAll (d : Document) (m : Mode) (nodes : List Nat) : Except ExtractError (Option String) :=
  match m with
  | attr name => .ok (nodes.head?.bind fun i => d.attr? i name)
  | m => (m.readEach d nodes).map fun ss => some (String.join ss)

end Harvest.Css
