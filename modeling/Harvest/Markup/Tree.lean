import Harvest.Markup.Name
/-!
# Trees of markup

What a document consists of, and trees under construction.  A growing tree numbers its nodes, so that a node can be
found again and put elsewhere; neighbouring texts that are added one after the other become one.
-/
namespace Harvest.Markup

/-- What a node is. -/
inductive Data where
  | document
  /-- The content of a template. -/
  | fragment
  | doctype (name : String)
  | comment (text : String)
  | text (s : String)
  /-- The attributes are sorted. -/
  | element (name : Name) (attrs : List Attr)
  deriving DecidableEq, Repr, Inhabited

namespace Data

def isElement : Data → Bool
  | element _ _ => true
  | _ => false

def isText : Data → Bool
  | text _ => true
  | _ => false

end Data

/-- A finished tree. -/
inductive Tree where
  | node (data : Data) (kids : List Tree)
  deriving Repr, Inhabited

/-- A node of a growing tree. -/
structure Cell where
  data : Data
  parent : Option Nat
  kids : Array Nat
  deriving Inhabited

/-- A growing tree; node 0 is the document. -/
structure Growth where
  cells : Array Cell

namespace Growth

def start : Growth := ⟨#[⟨.document, none, #[]⟩]⟩

def cell (g : Growth) (i : Nat) : Cell := g.cells.getD i default

def data (g : Growth) (i : Nat) : Data := (g.cell i).data

def name (g : Growth) (i : Nat) : Name :=
  match g.data i with
  | .element n _ => n
  | _ => .html ""

def modify (g : Growth) (i : Nat) (f : Cell → Cell) : Growth := ⟨g.cells.modify i f⟩

def create (g : Growth) (data : Data) : Nat × Growth := (g.cells.size, ⟨g.cells.push ⟨data, none, #[]⟩⟩)

def detach (g : Growth) (i : Nat) : Growth :=
  match (g.cell i).parent with
  | none => g
  | some p =>
    let g := g.modify p fun c => { c with kids := c.kids.filter (· != i) }
    g.modify i fun c => { c with parent := none }

/-- Puts a node behind the last child of another. -/
def append (g : Growth) (parent i : Nat) : Growth :=
  let g := g.detach i
  let g := g.modify parent fun c => { c with kids := c.kids.push i }
  g.modify i fun c => { c with parent := some parent }

/-- The children with `i` before `sibling`. -/
def insertInto (kids : Array Nat) (sibling i : Nat) : Array Nat :=
  (kids.toList.flatMap fun k => if k == sibling then [i, k] else [k]).toArray

def insertBefore (g : Growth) (sibling i : Nat) : Growth :=
  let g := g.detach i
  match (g.cell sibling).parent with
  | none => g
  | some p =>
    let g := g.modify p fun c => { c with kids := insertInto c.kids sibling i }
    g.modify i fun c => { c with parent := some p }

/-- Adds to the text of a node that is one. -/
def extend (g : Growth) (i : Nat) (s : String) : Growth :=
  g.modify i fun c => match c.data with
    | .text t => { c with data := .text (t ++ s) }
    | _ => c

def isText (g : Growth) (i : Option Nat) : Bool := i.any fun i => (g.data i).isText

/-- Adds text behind the last child of a node. -/
def appendText (g : Growth) (parent : Nat) (s : String) : Growth :=
  match (g.cell parent).kids.back? with
  | some last =>
    if (g.data last).isText then g.extend last s
    else let (i, g) := g.create (.text s); g.append parent i
  | none => let (i, g) := g.create (.text s); g.append parent i

def before? (kids : List Nat) (sibling : Nat) : Option Nat := (kids.takeWhile (· != sibling)).getLast?

def insertText (g : Growth) (sibling : Nat) (s : String) : Growth :=
  match (g.cell sibling).parent with
  | none => g
  | some p =>
    match before? (g.cell p).kids.toList sibling with
    | some last =>
      if (g.data last).isText then g.extend last s
      else let (i, g) := g.create (.text s); g.insertBefore sibling i
    | none => let (i, g) := g.create (.text s); g.insertBefore sibling i

/-- Moves all children of a node behind those of another. -/
def moveChildren (g : Growth) (source target : Nat) : Growth :=
  (g.cell source).kids.foldl (fun g i => g.append target i) g

/-- Gives an element the attributes that it does not have yet. -/
def addAttrs (g : Growth) (i : Nat) (attrs : List Attr) : Growth :=
  g.modify i fun c => match c.data with
    | .element n old =>
      let new := attrs.filter fun a => !old.any fun b => b.space == a.space && b.name == a.name
      { c with data := .element n (Attr.sorted (old ++ new)) }
    | _ => c

/-- The finished tree below a node; `fuel` bounds its height. -/
def finish (g : Growth) : Nat → Nat → Tree
  | 0, i => .node (g.data i) []
  | fuel + 1, i => .node (g.data i) ((g.cell i).kids.toList.map (g.finish fuel))

def tree (g : Growth) : Tree := g.finish g.cells.size 0

end Growth

end Harvest.Markup
