import Harvest.Fields
import Harvest.Yaml.Token
/-!
# Nodes of YAML texts

A text as a tree of scalars, sequences and mappings.  An alias stands for the node under an anchor, which may be one
that the alias is inside of.  A text holds one document, which may be empty.
-/
namespace Harvest.Yaml

/-- A node of a document. -/
inductive Node where
  | scalar (plain : Bool) (text : String)
  | sequence (items : List Node)
  | mapping (pairs : List (Node × Node))
  /-- What the anchor of a number is on. -/
  | alias (number : Nat)
  deriving Repr, Inhabited

/-- A document: its root, if it has one, its size in starts and ends of nodes, and what anchors are on. -/
structure Document where
  root : Option Node
  size : Nat
  anchored : List (Nat × Node)
  deriving Repr, Inhabited

/-- The reading of a document that is under way. -/
structure Grammar where
  tokens : List Token
  /-- The handles of tags. -/
  handles : List String
  /-- How many starts and ends of nodes have come. -/
  size : Nat
  /-- The number of each anchor, which is how many names of anchors were known before it. -/
  numbers : Fields Nat
  /-- Where the node under an anchor starts, the latest first. -/
  starts : List (Nat × Nat)
  /-- The nodes under anchors by where they start. -/
  nodes : List (Nat × Node)

/-- A step of reading a document. -/
abbrev Parse (α : Type) := StateT Grammar Option α

namespace Parse

def peek : Parse (Option Token) := do return (← get).tokens.head?

def pass : Parse Unit := modify fun g => { g with tokens := g.tokens.drop 1 }

/-- Passes the next token if it is the one. -/
def passed (t : Token) : Parse Bool := do
  if (← peek) == some t then
    pass
    return true
  else return false

/-- Passes the comma between items, which is not there before the first. -/
def comma (first : Bool) : Parse Unit := do
  if first then return
  if ← passed .flowEntry then return
  failure

def count (n : Nat) : Parse Unit := modify fun g => { g with size := g.size + n }

def scalar (plain : Bool) (text : String) : Parse Node := do
  count 1
  return .scalar plain text

/-- The scalar in the place of a node that is left out. -/
def omitted : Parse Node := scalar true ""

def isKnown (handles : List String) (handle : String) : Bool := ["", "!", "!!"].contains handle || handles.contains handle

/-- The anchor before a node, if it has one. -/
def anchor? : Parse (Option String) := do
  match ← peek with
  | some (.anchor name) =>
    pass
    return some name
  | _ => return none

/-- Is there a tag before a node?  Its handle must be known. -/
def tagged : Parse Bool := do
  match ← peek with
  | some (.tag handle) =>
    pass
    if isKnown (← get).handles handle then return true else failure
  | _ => return false

/-- The anchor before a node and whether it has a tag, in any order. -/
def properties : Parse (Option String × Bool) := do
  match ← anchor? with
  | some name => return (some name, ← tagged)
  | none =>
    if ← tagged then return (← anchor?, true) else return (none, false)

/-- Gives an anchor its number, for a node that starts here. -/
def name (anchor : String) : Parse Unit := modify fun g =>
  { g with numbers := g.numbers.insert anchor g.numbers.length, starts := (g.numbers.length, g.size) :: g.starts }

/-- Keeps a node that is under an anchor. -/
def keep (start : Nat) (n : Node) : Parse Node := do
  modify fun g => { g with nodes := (start, n) :: g.nodes }
  return n

mutual
/-- A node.  `block` says that it may be a block, and `bare` that a sequence needs no indentation; `fuel` bounds the
number of steps. -/
def node (block bare : Bool) : Nat → Parse Node
  | 0 => failure
  | fuel + 1 => do
    match ← peek with
    | some (.alias anchor) =>
      pass
      count 1
      match (← get).numbers.find? anchor with
      | some n => return .alias n
      | none => failure
    | _ =>
      let (anchor, tagged) ← properties
      let start := (← get).size
      if let some anchor := anchor then name anchor
      let n ← content block bare (anchor.isSome || tagged) fuel
      if anchor.isSome then keep start n else return n

/-- A node behind its anchor and its tag, which may be all there is if it has one of them. -/
def content (block bare optional : Bool) : Nat → Parse Node
  | 0 => failure
  | fuel + 1 => do
    match ← peek with
    | some (.scalar plain text) => pass; scalar plain text
    | some .flowSequence =>
      pass
      count 1
      let items ← flowItems true fuel
      count 1
      return .sequence items
    | some .flowMapping =>
      pass
      count 1
      let pairs ← flowPairs true fuel
      count 1
      return .mapping pairs
    | some .blockEntry =>
      if bare then
        count 1
        let items ← bareItems fuel
        count 1
        return .sequence items
      else if optional then omitted
      else failure
    | some .blockSequence =>
      if block then
        pass
        count 1
        let items ← blockItems fuel
        count 1
        return .sequence items
      else if optional then omitted
      else failure
    | some .blockMapping =>
      if block then
        pass
        count 1
        let pairs ← blockPairs fuel
        count 1
        return .mapping pairs
      else if optional then omitted
      else failure
    | _ => if optional then omitted else failure

/-- A node, or none where one of several tokens comes. -/
def nodeUnless (ends : List Token) (block bare : Bool) : Nat → Parse Node
  | 0 => failure
  | fuel + 1 => do
    match ← peek with
    | some t => if ends.contains t then omitted else node block bare fuel
    | none => node block bare fuel

def blockItems : Nat → Parse (List Node)
  | 0 => failure
  | fuel + 1 => do
    if ← passed .blockEntry then
      let n ← nodeUnless [.blockEntry, .blockEnd] true false fuel
      return n :: (← blockItems fuel)
    else if ← passed .blockEnd then return []
    else failure

/-- The items of a sequence inside a mapping that is not indented further. -/
def bareItems : Nat → Parse (List Node)
  | 0 => failure
  | fuel + 1 => do
    if ← passed .blockEntry then
      let n ← nodeUnless [.blockEntry, .key, .value, .blockEnd] true false fuel
      return n :: (← bareItems fuel)
    else return []

def blockPairs : Nat → Parse (List (Node × Node))
  | 0 => failure
  | fuel + 1 => do
    if ← passed .key then
      let k ← nodeUnless [.key, .value, .blockEnd] true true fuel
      let v ← if ← passed .value then nodeUnless [.key, .value, .blockEnd] true true fuel else omitted
      return (k, v) :: (← blockPairs fuel)
    else if ← passed .blockEnd then return []
    else failure

/-- The items in brackets; `first` says that none has come. -/
def flowItems (first : Bool) : Nat → Parse (List Node)
  | 0 => failure
  | fuel + 1 => do
    if ← passed .flowSequenceEnd then return []
    comma first
    if ← passed .flowSequenceEnd then return []
    let n ← flowItem fuel
    return n :: (← flowItems false fuel)

/-- An item in brackets, which may be a single pair. -/
def flowItem : Nat → Parse Node
  | 0 => failure
  | fuel + 1 => do
    if ← passed .key then
      count 1
      let k ← match ← peek with
        | some .value | some .flowEntry | some .flowSequenceEnd => pass; omitted
        | _ => node false false fuel
      let v ← if ← passed .value then nodeUnless [.flowEntry, .flowSequenceEnd] false false fuel else omitted
      count 1
      return .mapping [(k, v)]
    else node false false fuel

/-- The pairs in braces; `first` says that none has come. -/
def flowPairs (first : Bool) : Nat → Parse (List (Node × Node))
  | 0 => failure
  | fuel + 1 => do
    if ← passed .flowMappingEnd then return []
    comma first
    if ← passed .flowMappingEnd then return []
    if ← passed .key then
      let k ← nodeUnless [.value, .flowEntry, .flowMappingEnd] false false fuel
      let v ← if ← passed .value then nodeUnless [.flowEntry, .flowMappingEnd] false false fuel else omitted
      return (k, v) :: (← flowPairs false fuel)
    else
      let k ← node false false fuel
      let v ← omitted
      return (k, v) :: (← flowPairs false fuel)
end

/-- The handles that directives before a document define, each once; a version must be one of 1.1 and 1.2 and comes
once. -/
def directives (version : Bool) (handles : List String) : List Token → Option (List String × List Token)
  | .version major minor :: ts =>
    if version || major != 1 || (minor != 1 && minor != 2) then none else directives true handles ts
  | .handle h :: ts => if handles.contains h then none else directives version (h :: handles) ts
  | ts => some (handles, ts)

/-- Does the content of a document end before it starts? -/
def isVoid : Option Token → Bool
  | none | some (.version ..) | some (.handle _) | some .documentStart | some .documentEnd => true
  | _ => false

/-- The root of a document behind the line that starts it. -/
def rootBehindMark (fuel : Nat) : Parse Node := do
  if isVoid (← peek) then omitted else node true false fuel

end Parse

def Grammar.start (handles : List String) (tokens : List Token) : Grammar := ⟨tokens, handles, 0, [], [], []⟩

/-- The document that has been read, if nothing is behind it. -/
def Grammar.finish (root : Node) (g : Grammar) : Option Document :=
  if g.tokens.all (· == .documentEnd) then
    some ⟨some root, g.size, g.starts.filterMap fun p => (g.nodes.lookup p.2).map fun n => (p.1, n)⟩
  else none

def Document.ofTokens? (ts : List Token) : Option Document := do
  let fuel := 8 * ts.length + 8
  match ts with
  | [] => return ⟨none, 1, []⟩
  | t :: _ =>
    if Parse.isVoid (some t) && t != .documentEnd then
      match ← Parse.directives false [] ts with
      | (handles, .documentStart :: rest) =>
        let (root, g) ← (Parse.rootBehindMark fuel).run (.start handles rest)
        g.finish root
      | _ => none
    else
      let (root, g) ← (Parse.node true false fuel).run (.start [] ts)
      g.finish root

def Document.parse? (text : String) : Option Document := (Token.all? text.toList).bind ofTokens?

def Document.target? (d : Document) : Node → Option Node
  | .alias n => d.anchored.lookup n
  | n => some n

end Harvest.Yaml
