import Harvest.Markup.Tree
/-!
# Documents

A parsed document: its nodes in document order, each with its parent and with the place behind its last descendant.  A
node that has been removed is marked as cut: it no longer has a parent or siblings, and no longer is below what it was
in; what is below it stays.  So a node keeps its number for as long as the document is used.
-/
namespace Harvest.Markup

/-- A node of a document: what it is, what it was put into, and the number behind those below it. -/
structure Entry where
  data : Data
  parent : Option Nat
  stop : Nat
  deriving DecidableEq, Repr, Inhabited

mutual
def Tree.size : Tree → Nat
  | .node _ kids => 1 + Tree.sizeAll kids

def Tree.sizeAll : List Tree → Nat
  | [] => 0
  | t :: ts => t.size + Tree.sizeAll ts
end

mutual
/-- The nodes of a tree in document order, numbered from `start` on. -/
def Tree.entries (parent : Option Nat) (start : Nat) : Tree → List Entry
  | .node data kids =>
    let below := Tree.entriesAll start (start + 1) kids
    ⟨data, parent, start + 1 + below.length⟩ :: below

/-- The nodes of several trees inside one node. -/
def Tree.entriesAll (parent start : Nat) : List Tree → List Entry
  | [] => []
  | t :: ts =>
    let first := t.entries (some parent) start
    first ++ Tree.entriesAll parent (start + first.length) ts
end

/-- A document. -/
structure Document where
  nodes : Array Entry
  cut : Array Bool
  deriving DecidableEq, Repr, Inhabited

namespace Document

def ofTree (t : Tree) : Document :=
  let nodes := (t.entries none 0).toArray
  ⟨nodes, Array.replicate nodes.size false⟩

/-- How many nodes there are, the removed ones too. -/
def size (d : Document) : Nat := d.nodes.size

def entry (d : Document) (i : Nat) : Entry := d.nodes.getD i default

def data (d : Document) (i : Nat) : Data := (d.entry i).data

/-- The number behind the nodes below a node. -/
def stop (d : Document) (i : Nat) : Nat := (d.entry i).stop

/-- Has the node been removed from its parent? -/
def isCut (d : Document) (i : Nat) : Bool := d.cut.getD i false

def isElement (d : Document) (i : Nat) : Bool := (d.data i).isElement

def name? (d : Document) (i : Nat) : Option Name :=
  match d.data i with
  | .element n _ => some n
  | _ => none

def attrs (d : Document) (i : Nat) : List Attr :=
  match d.data i with
  | .element _ as => as
  | _ => []

/-- The value of an attribute that belongs to no vocabulary. -/
def attr? (d : Document) (i : Nat) (name : String) : Option String :=
  ((d.attrs i).find? fun a => a.space == .plain && a.name == name).map Attr.value

/-! ## Where nodes are -/

def parent? (d : Document) (i : Nat) : Option Nat := if d.isCut i then none else (d.entry i).parent

/-- The nodes from `i` up to `stop` that are not below another of them and not removed; `fuel` bounds their number. -/
def level (d : Document) (stop : Nat) : Nat → Nat → List Nat
  | 0, _ => []
  | fuel + 1, i =>
    if i < stop then
      let rest := level d stop fuel (d.stop i)
      if d.isCut i then rest else i :: rest
    else []

def children (d : Document) (i : Nat) : List Nat := d.level (d.stop i) (d.stop i - i) (i + 1)

/-- The nodes from `i` up to `stop` without the removed ones and those below them. -/
def visible (d : Document) (stop : Nat) : Nat → Nat → List Nat
  | 0, _ => []
  | fuel + 1, i =>
    if i < stop then if d.isCut i then visible d stop fuel (d.stop i) else i :: visible d stop fuel (i + 1)
    else []

/-- The nodes below a node, in document order. -/
def descendants (d : Document) (i : Nat) : List Nat := d.visible (d.stop i) (d.stop i - i) (i + 1)

/-- The nodes that a node is in, the innermost first; `fuel` bounds their number. -/
def ancestorsUpTo (d : Document) : Nat → Nat → List Nat
  | 0, _ => []
  | fuel + 1, i =>
    match d.parent? i with
    | some p => p :: ancestorsUpTo d fuel p
    | none => []

/-- The nodes that a node is in, the innermost first. -/
def ancestors (d : Document) (i : Nat) : List Nat := d.ancestorsUpTo (i + 1) i

/-- The nodes right below the same node, the node itself too. -/
def family (d : Document) (i : Nat) : List Nat := ((d.parent? i).map d.children).getD []

/-- The siblings behind a node, the nearest first. -/
def following (d : Document) (i : Nat) : List Nat := (d.family i).filter (i < ·)

/-- The siblings before a node, the nearest first. -/
def preceding (d : Document) (i : Nat) : List Nat := ((d.family i).filter (· < i)).reverse

/-- The first element right below the document. -/
def rootElement? (d : Document) : Option Nat := (d.children 0).find? d.isElement

/-- Removes a node with what is below it. -/
def remove (d : Document) (i : Nat) : Document := { d with cut := d.cut.setIfInBounds i true }

end Document

end Harvest.Markup
