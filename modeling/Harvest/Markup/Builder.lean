import Harvest.Markup.Foreign
import Harvest.Markup.Tree
/-!
# Building a tree from tokens

The state in which a tree is built: the elements that are open, the current one first; the formatting elements that are
to be opened again; and where the document is.  The operations here are those that the rules of the modes are made of.
-/
namespace Harvest.Markup

/-- Where in a document the builder is. -/
inductive Mode where
  | initial
  | beforeHtml
  | beforeHead
  | inHead
  | afterHead
  | inBody
  | text
  | inTable
  | inTableText
  | inCaption
  | inColumnGroup
  | inTableBody
  | inRow
  | inCell
  | inSelect
  | inSelectInTable
  | inTemplate
  | afterBody
  | inFrameset
  | afterFrameset
  | afterAfterBody
  | afterAfterFrameset
  deriving DecidableEq, Repr, Inhabited

/-- A formatting element that is to be opened again, or a mark that hides those before it. -/
inductive Formatting where
  | marker
  | element (node : Nat) (tag : StartTag)
  deriving DecidableEq, Repr

/-- The state in which a tree is built. -/
structure Builder where
  tree : Growth
  mode : Mode
  /-- The mode behind a text. -/
  outer : Mode
  /-- The open elements, the current one first. -/
  stack : List Nat
  /-- The formatting elements, the newest first. -/
  formatting : List Formatting
  head : Option Nat
  form : Option Nat
  /-- The modes of the open templates, the innermost first. -/
  templates : List Mode
  /-- May a frameset still take the place of the body? -/
  framesetOk : Bool
  /-- Is a line feed at the head of the next token to be left out? -/
  skipNewline : Bool
  /-- Do tables stay inside paragraphs? -/
  old : Bool
  /-- Does what a table cannot hold go before the table? -/
  foster : Bool
  /-- The characters in a table so far. -/
  pending : List Token
  reading : Reading

namespace Builder

def start : Builder :=
  { tree := .start, mode := .initial, outer := .initial, stack := [], formatting := [], head := none, form := none,
    templates := [], framesetOk := true, skipNewline := false, old := false, foster := false, pending := [],
    reading := .markup }

/-! ## The open elements -/

def current (b : Builder) : Nat := b.stack.headD 0

def nameOf (b : Builder) (i : Nat) : Name := b.tree.name i

def currentName (b : Builder) : Name := b.nameOf b.current

def root (b : Builder) : Nat := b.stack.getLastD 0

def pop (b : Builder) : Builder := { b with stack := b.stack.tail }

def push (b : Builder) (i : Nat) : Builder := { b with stack := i :: b.stack }

def isOpen (b : Builder) (word : String) : Bool := b.stack.any fun i => (b.nameOf i).is word

/-- Takes an element out of the open ones. -/
def close (b : Builder) (i : Nat) : Builder := { b with stack := b.stack.filter (· != i) }

/-- Leaves open what is open around the first element that passes a test, without it. -/
def popThrough (b : Builder) (test : Name → Bool) : Builder :=
  { b with stack := (b.stack.dropWhile fun i => !test (b.nameOf i)).tail }

/-- Makes the first element that passes a test the current one. -/
def popTo (b : Builder) (test : Name → Bool) : Builder :=
  { b with stack := b.stack.dropWhile fun i => !test (b.nameOf i) }

/-- Closes elements that pass a test while the current one does. -/
def popWhile (b : Builder) (test : Name → Bool) : Builder :=
  { b with stack := b.stack.dropWhile fun i => test (b.nameOf i) }

/-- Closes the elements whose ends are implied. -/
def implyEnds (b : Builder) : Builder := b.popWhile Name.closesItself

/-- Closes the elements whose ends are implied, but none of a name. -/
def implyEndsBut (b : Builder) (word : String) : Builder := b.popWhile fun n => n.closesItself && !n.is word

/-- Is an element that passes a test open, and not hidden? -/
def inScope (b : Builder) (hides : Name → Bool) (test : Nat → Bool) : Bool :=
  let rec go : List Nat → Bool
    | [] => false
    | i :: rest => test i || (!hides (b.nameOf i) && go rest)
  go b.stack

/-- Is an element of a name open, and not hidden? -/
def hasIn (b : Builder) (hides : Name → Bool) (word : String) : Bool := b.inScope hides fun i => (b.nameOf i).is word

def closeParagraph (b : Builder) : Builder :=
  if b.hasIn Name.endsButtonScope "p" then (b.implyEndsBut "p").popThrough (Name.is "p") else b

/-! ## Putting nodes in -/

/-- A place in the tree. -/
inductive Place where
  | inside (parent : Nat)
  | before (sibling : Nat)

/-- What holds the content of a template. -/
def contentOf (b : Builder) (template : Nat) : Nat := (b.tree.cell template).kids.getD 0 template

/-- The place before the innermost open table, or inside the innermost open template. -/
def fosterPlace (b : Builder) : List Nat → Place
  | [] => .inside b.root
  | i :: rest =>
    if (b.nameOf i).is "template" then .inside (b.contentOf i)
    else if (b.nameOf i).is "table" then
      if (b.tree.cell i).parent.isSome then .before i else .inside (rest.headD 0)
    else b.fosterPlace rest

/-- The place for what belongs into an element. -/
def placeIn (b : Builder) (target : Nat) : Place :=
  if b.foster && (b.nameOf target).isTablePart then b.fosterPlace b.stack
  else if (b.nameOf target).is "template" then .inside (b.contentOf target)
  else .inside target

/-- Puts a node at a place. -/
def put (b : Builder) (place : Place) (i : Nat) : Builder :=
  match place with
  | .inside p => { b with tree := b.tree.append p i }
  | .before s => { b with tree := b.tree.insertBefore s i }

def addText (b : Builder) (cs : List Char) : Builder :=
  if cs.isEmpty then b
  else match b.placeIn b.current with
    | .inside p => { b with tree := b.tree.appendText p (String.ofList cs) }
    | .before s => { b with tree := b.tree.insertText s (String.ofList cs) }

def addCommentTo (b : Builder) (parent : Nat) (text : String) : Builder :=
  let (i, tree) := b.tree.create (.comment text)
  { b with tree := tree.append parent i }

/-- Adds a comment to the current element. -/
def addComment (b : Builder) (text : String) : Builder :=
  let (i, tree) := b.tree.create (.comment text)
  { b with tree }.put (b.placeIn b.current) i

def create (b : Builder) (name : Name) (attrs : List Attr) : Nat × Builder :=
  let (i, tree) := b.tree.create (.element name attrs)
  if name.is "template" then
    let (c, tree) := tree.create .fragment
    (i, { b with tree := tree.append i c })
  else (i, { b with tree })

def addElement (b : Builder) (name : Name) (attrs : List Attr) : Nat × Builder :=
  let place := b.placeIn b.current
  let (i, b) := b.create name attrs
  (i, b.put place i)

def attrsOf (t : StartTag) : List Attr := Foreign.attrs .html t.attrs

/-- Adds the element of a tag and opens it. -/
def insert (b : Builder) (t : StartTag) : Builder :=
  let (i, b) := b.addElement (.html t.name) (attrsOf t)
  b.push i

/-- Adds the element of a tag, which stays closed. -/
def insertClosed (b : Builder) (t : StartTag) : Builder := (b.addElement (.html t.name) (attrsOf t)).2

/-- Adds an element that no tag stands for, and opens it. -/
def insertBare (b : Builder) (word : String) : Builder := b.insert ⟨word, [], false⟩

/-- Adds an element of another vocabulary, and opens it unless its tag closes it. -/
def insertForeign (b : Builder) (space : Space) (t : StartTag) : Builder :=
  let (i, b) := b.addElement ⟨space, t.name⟩ (Foreign.attrs space t.attrs)
  if t.selfClosing then b else b.push i

/-- Adds an element whose text is read in another way. -/
def insertText (b : Builder) (t : StartTag) (reading : Reading) : Builder :=
  { b.insert t with outer := b.mode, mode := .text, reading }

/-! ## Formatting elements -/

/-- The formatting elements up to the last mark. -/
def formattingHere (b : Builder) : List (Nat × StartTag) :=
  let rec go : List Formatting → List (Nat × StartTag)
    | [] | .marker :: _ => []
    | .element i t :: rest => (i, t) :: go rest
  go b.formatting

def mark (b : Builder) : Builder := { b with formatting := .marker :: b.formatting }

/-- Forgets the formatting elements up to the last mark, and the mark. -/
def unmark (b : Builder) : Builder :=
  { b with formatting := (b.formatting.dropWhile (· != .marker)).tail }

def isEntryOf (i : Nat) : Formatting → Bool
  | .element j _ => j == i
  | .marker => false

def forget (b : Builder) (i : Nat) : Builder :=
  { b with formatting := b.formatting.filter fun f => !isEntryOf i f }

/-- Do two tags open the same formatting? -/
def sameTag (s t : StartTag) : Bool := s.name == t.name && attrsOf s == attrsOf t

/-- Adds a formatting element; of more than three of the same the oldest is forgotten. -/
def insertFormatting (b : Builder) (t : StartTag) : Builder :=
  let same := b.formattingHere.filter fun p => sameTag t p.2
  let b := if same.length ≥ 3 then b.forget (same.getLastD (0, t)).1 else b
  let b := b.insert t
  { b with formatting := .element b.current t :: b.formatting }

/-- Is the entry a mark or an open element? -/
def isSettled (b : Builder) : Formatting → Bool
  | .marker => true
  | .element i _ => b.stack.contains i

/-- Opens formatting elements again, the oldest first; the entries that stay in front of them. -/
def openAgain (kept : List Formatting) : List Formatting → Builder → Builder
  | [], b => { b with formatting := kept }
  | .element _ t :: rest, b =>
    let b := b.insert t
    openAgain (.element b.current t :: kept) rest b
  | .marker :: rest, b => openAgain (.marker :: kept) rest b

/-- Opens the formatting elements again that something has closed. -/
def reconstruct (b : Builder) : Builder :=
  let lost := b.formatting.takeWhile fun f => !b.isSettled f
  openAgain (b.formatting.drop lost.length) lost.reverse b

/-! ## End tags that no rule knows, and misnested formatting -/

/-- The elements from the one of a name on, unless a special element comes first. -/
def findToClose (b : Builder) (word : String) : List Nat → Option Nat
  | [] => none
  | i :: rest =>
    if (b.nameOf i).is word then some i
    else if (b.nameOf i).isSpecial then none
    else b.findToClose word rest

/-- Closes the innermost element of a name unless a special element is open inside it. -/
def endAny (b : Builder) (word : String) : Builder :=
  match b.findToClose word b.stack with
  | none => b
  | some i =>
    let b := b.implyEndsBut word
    { b with stack := (b.stack.dropWhile (· != i)).tail }

/-- What moving the content of a formatting element has done so far: the element that holds it, the open elements
between, innermost first, and the element behind whose entry the new one goes. -/
structure Moving where
  builder : Builder
  last : Nat
  between : List Nat
  bookmark : Option Nat

def replaceEntry (i : Nat) (new : Formatting) (fs : List Formatting) : List Formatting :=
  fs.map fun f => if isEntryOf i f then new else f

/-- Copies the elements between a formatting element and the block in it, and puts each around what was inside. -/
def copyBetween (block : Nat) : Nat → List Nat → Moving → Moving
  | _, [], m => m
  | count, i :: rest, m =>
    let entry := m.builder.formatting.find? (isEntryOf i)
    match count, entry with
    | count + 1, some (.element _ t) =>
      let (new, b) := m.builder.create (.html t.name) (attrsOf t)
      let b := { b with
        formatting := replaceEntry i (.element new t) b.formatting, tree := b.tree.append new m.last }
      copyBetween block count rest
        ⟨b, new, m.between ++ [new], if m.last == block then some new else m.bookmark⟩
    | 0, some _ => copyBetween block 0 rest { m with builder := m.builder.forget i }
    | count, _ => copyBetween block (count - 1) rest m

/-- The entries with a new one in place of an element's, or right behind another's and without it. -/
def moveEntry (formatting : Nat) (bookmark : Option Nat) (new : Formatting) (fs : List Formatting) :
    List Formatting :=
  match bookmark with
  | none => replaceEntry formatting new fs
  | some i =>
    (fs.flatMap fun f => if isEntryOf i f then [new, f] else [f]).filter fun f => !isEntryOf formatting f

/-- Moves the content of a misnested formatting element: the block in it gets the formatting inside. -/
def rearrange (b : Builder) (element : Nat) (tag : StartTag) (block : Nat) : Builder :=
  let inner := b.stack.takeWhile (· != block)
  let between := ((b.stack.drop (inner.length + 1)).takeWhile (· != element))
  let outer := b.stack.drop (inner.length + 1 + between.length + 1)
  let m := copyBetween block 3 between ⟨b, block, [], none⟩
  let b := { m.builder with tree := m.builder.tree.detach m.last }
  let b := b.put (b.placeIn (outer.headD 0)) m.last
  let (new, b) := b.create (.html tag.name) (attrsOf tag)
  let tree := (b.tree.moveChildren block new).append block new
  { b with
    tree, formatting := moveEntry element m.bookmark (.element new tag) b.formatting,
    stack := inner ++ new :: block :: m.between ++ outer }

/-- Ends a formatting element that may not be the current one. -/
def endFormatting (word : String) : Nat → Builder → Builder
  | 0, b => b
  | fuel + 1, b =>
    match b.formattingHere.find? fun p => p.2.name == word with
    | none => b.endAny word
    | some (i, tag) =>
      if !b.stack.contains i then b.forget i
      else if !b.inScope Name.endsScope (· == i) then b
      else
        let above := b.stack.takeWhile (· != i)
        match above.reverse.find? fun j => (b.nameOf j).isSpecial with
        | none => { b with stack := b.stack.drop (above.length + 1) }.forget i
        | some block => endFormatting word fuel (b.rearrange i tag block)

/-- Ends a formatting element; the current element just closes if nothing is to be opened again. -/
def adopt (b : Builder) (word : String) : Builder :=
  if b.currentName.is word && !b.formatting.any (isEntryOf b.current) then b.pop else endFormatting word 8 b

/-! ## Where to go on -/

/-- The mode that the open elements lead to; the root is the last of them. -/
def modeFor (b : Builder) : List Nat → Mode
  | [] => .inBody
  | i :: rest =>
    let n := b.nameOf i
    let last := rest.isEmpty
    if n.is "select" then
      match rest.find? fun j => (b.nameOf j).isAny ["template", "table"] with
      | some j => if (b.nameOf j).is "table" then .inSelectInTable else .inSelect
      | none => .inSelect
    else if n.isCell && !last then .inCell
    else if n.is "tr" then .inRow
    else if n.isRowGroup then .inTableBody
    else if n.is "caption" then .inCaption
    else if n.is "colgroup" then .inColumnGroup
    else if n.is "table" then .inTable
    else if n.is "template" then b.templates.headD .inBody
    else if n.is "head" && !last then .inHead
    else if n.is "body" then .inBody
    else if n.is "frameset" then .inFrameset
    else if n.is "html" then if b.head.isSome then .afterHead else .beforeHead
    else b.modeFor rest

/-- The mode that the open elements lead to. -/
def currentMode (b : Builder) : Mode := b.modeFor b.stack

end Builder

end Harvest.Markup
