import Std.Data.TreeMap
import Harvest.Pattern.Expr
import Harvest.Text.Utf8
/-!
# How large a pattern is

A pattern may not be larger than ten mebibytes, once as an automaton that reads the bytes of UTF-8 forwards and once as
one that reads them backwards (`fits`).  A state takes 32 bytes, a branch for a range of bytes eight more, a branch
without a byte four.  The forward automaton of a set shares what its codes end with, the backward one what they begin
with, as far as a table of bounded size remembers.
-/
namespace Harvest.Pattern.Size

open Harvest.Unicode (CharSet Range)

/-- An automaton being counted: its states, and the bytes that their branches take. -/
structure Tally where
  states : Nat
  branches : Nat

/-- The most bytes that an automaton may take. -/
def limit : Nat := 10 * 0x100000

/-- A part of the count, which ends where the automaton becomes too large. -/
abbrev Count (α : Type) := StateT Tally Option α

def within (t : Tally) : Option (Unit × Tally) := if 32 * t.states + t.branches > limit then none else some ((), t)

/-- A new state whose branches take some bytes. -/
def state (branches : Nat) : Count Nat := fun t => do
  let (_, u) ← within ⟨t.states + 1, t.branches + branches⟩
  return (t.states, u)

/-- Several new states without branches of their own. -/
def states (n : Nat) : Count Unit := fun t => within ⟨t.states + n, t.branches⟩

/-- Branches without bytes, out of states that are there already. -/
def links (n : Nat) : Count Unit := fun t => within ⟨t.states, t.branches + 4 * n⟩

/-- A part of an automaton, counted; the answer says whether it ends in a state that branches. -/
abbrev Part := Count Bool

/-- Leads from the end of a part to another state. -/
def leave (branching : Bool) : Count Unit := links (if branching then 1 else 0)

def single : Part := do
  states 1
  return false

/-- A part behind one that is counted already. -/
def behind (branching : Bool) (next : Part) : Part := do
  let b ← next
  leave branching
  return b

/-! ## Characters as bytes -/

/-- The last code that takes so many bytes. -/
def lastOfWidth : Nat → Nat
  | 1 => 0x7F
  | 2 => 0x7FF
  | _ => 0xFFFF

/-- Where a range has to be cut so that either part is a sequence of ranges of bytes, at the first of the reasons that
apply: codes of different widths, or a place below the first that does not take all its values.  The cut is in front of
the code. -/
def cut? (r : Range) : Option Nat :=
  let width := [1, 2, 3].findSome? fun i =>
    if r.1 ≤ lastOfWidth i && lastOfWidth i < r.2 then some (lastOfWidth i + 1) else none
  match width with
  | some n => some n
  | none =>
    if r.2 ≤ 0x7F then none
    else [0x40, 0x1000, 0x40000].findSome? fun m =>
      if r.1 / m == r.2 / m then none
      else if r.1 % m != 0 then some ((r.1 / m + 1) * m)
      else if r.2 % m != m - 1 then some (r.2 / m * m)
      else none

/-- The bytes of the ends of a range, pairwise. -/
def byteRanges (r : Range) : List Range :=
  let bytes (n : Nat) : List Nat := (Text.Utf8.encode [Char.ofNat n]).map UInt8.toNat
  (bytes r.1).zip (bytes r.2)

/-- The sequences of ranges of bytes that make up a range of codes, with so many cuts at most inside one another. -/
def sequencesOf : Nat → Range → List (List Range)
  | 0, r => [byteRanges r]
  | fuel + 1, r =>
    match cut? r with
    | some n => sequencesOf fuel (r.1, n - 1) ++ sequencesOf fuel (n, r.2)
    | none => [byteRanges r]

/-- The sequences of ranges of bytes that make up a set. -/
def sequences (s : CharSet) : List (List Range) := s.scalars.ranges.toList.flatMap (sequencesOf 16)

/-! ## Tables of states -/

/-- States by what they do.  A place holds one state: a new one takes it from the one before. -/
structure Table where
  places : Nat
  entries : Std.TreeMap Nat (List Nat × Nat)

def Table.place (t : Table) (key : List Nat) : Nat :=
  let hash := key.foldl (fun (h : UInt64) n => UInt64.xor h (UInt64.ofNat n) * 1099511628211) 14695981039346656037
  hash.toNat % t.places

/-- The state of a key, made by `new` where the table has none. -/
def Table.get (t : Table) (key : List Nat) (new : Count Nat) : Count (Nat × Table) := do
  let place := t.place key
  match t.entries[place]? with
  | some (other, i) =>
    if other == key then return (i, t)
    else
      let i ← new
      return (i, { t with entries := t.entries.insert place (key, i) })
  | none =>
    let i ← new
    return (i, { t with entries := t.entries.insert place (key, i) })

/-! ## Sets -/

/-- A state being made: its finished branches as ranges with their targets, and the last branch, whose target is still
open. -/
structure Open where
  done : List (Range × Nat)
  last : Option Range

/-- The state with its last branch finished. -/
def Open.close (o : Open) (target : Nat) : Open :=
  match o.last with
  | some r => ⟨o.done ++ [(r, target)], none⟩
  | none => o

def Open.finish (o : Open) (t : Table) : Count (Nat × Table) :=
  t.get (o.done.flatMap fun b => [b.1.1, b.1.2, b.2]) (state (8 * o.done.length))

/-- Finishes a path of states, each of which is the last target of the one before; the last leads to `target`. -/
def finishPath (target : Nat) : List Open → Table → Count (Nat × Table)
  | [], t => pure (target, t)
  | o :: rest, t => do
    let (next, t) ← finishPath target rest t
    (o.close next).finish t

/-- How many states of a path the bytes of a sequence have in common with it. -/
def shared : List Range → List Open → Nat
  | r :: rs, o :: os => if o.last == some r then shared rs os + 1 else 0
  | _, _ => 0

/-- Adds a sequence to the states of a path: what it does not share with the path is finished. -/
def addSequence (target : Nat) (path : List Open) (t : Table) (ranges : List Range) : Count (List Open × Table) := do
  let n := shared ranges path
  let (next, t) ← finishPath target (path.drop (n + 1)) t
  let top := match path[n]? with
    | some o => o.close next
    | none => ⟨[], none⟩
  let rest := ranges.drop n
  return (path.take n ++ [{ top with last := rest.head? }] ++ (rest.drop 1).map fun r => ⟨[], some r⟩, t)

/-- Adds sequences one after the other and finishes what is left. -/
def addSequences (target : Nat) : List (List Range) → List Open → Table → Count Nat
  | [], path, t => do
    let (i, _) ← finishPath target path t
    return i
  | ranges :: rest, path, t => do
    let (path, t) ← addSequence target path t ranges
    addSequences target rest path t

/-- Adds the bytes of a sequence in their order, each leading to the one before. -/
def addBackward (t : Table) (i : Nat) : List Range → Count (Nat × Table)
  | [] => pure (i, t)
  | r :: rest => do
    let (i, t) ← t.get [i, r.1, r.2] (state 0)
    addBackward t i rest

/-- Adds sequences that are read backwards; all of them begin at one state. -/
def addAllBackward (target : Nat) : List (List Range) → Table → Count Unit
  | [], _ => pure ()
  | ranges :: rest, t => do
    let (_, t) ← addBackward t target ranges
    links 1
    addAllBackward target rest t

def ofSet (backward : Bool) (s : CharSet) : Part := do
  if s.ranges.toList.all fun r => r.2 ≤ 0x7F then
    states 1
    let _ ← state (8 * s.ranges.size)
  else if backward then
    states 1
    let last ← state 0
    addAllBackward last (sequences s) ⟨1000, {}⟩
  else
    let last ← state 0
    let _ ← addSequences last (sequences s) [⟨[], none⟩] ⟨10000, {}⟩
  return false

/-! ## Choices between literals -/

/-- Literals that share what they begin with.  Behind the end of a literal the branches begin anew: `closed` holds those
of before, each list up to one end. -/
inductive Trie where
  | node (closed : List (List (Nat × Trie))) (current : List (Nat × Trie))
  deriving Inhabited

namespace Trie

def empty : Trie := .node [] []

def isLeaf : Trie → Bool
  | .node closed current => current.isEmpty && closed.all List.isEmpty

def insert : List Nat → Trie → Trie
  | [], .node closed current =>
    if (Trie.node closed current).isLeaf && !closed.isEmpty then .node closed current
    else .node (closed ++ [current]) []
  | b :: bs, .node closed current =>
    if current.any fun c => c.1 == b then
      .node closed (current.map fun c => if c.1 == b then (b, insert bs c.2) else c)
    else .node closed (current ++ [(b, insert bs empty)])

/-- How many states and links the branches up to one end take. -/
def chunk (n : Nat) : Count Unit := do
  if n == 1 then states 1
  else if n > 1 then let _ ← state (8 * n)
  links (if n == 0 then 0 else 1)

mutual
def count : Trie → Count Unit
  | .node closed current => do
    if current.isEmpty && closed.all List.isEmpty then return ()
    else
      countClosed closed
      countBranches current
      chunk current.length
      states 1

def countClosed : List (List (Nat × Trie)) → Count Unit
  | [] => pure ()
  | bs :: rest => do
    countBranches bs
    chunk bs.length
    links 1
    countClosed rest

def countBranches : List (Nat × Trie) → Count Unit
  | [] => pure ()
  | (_, t) :: rest => do
    count t
    countBranches rest
end

end Trie

def bytesOf (cs : List Char) : List Nat := (Text.Utf8.encode cs).map UInt8.toNat

/-- The literals of patterns that are literals. -/
def literals? : List Expr → Option (List (List Nat))
  | [] => some []
  | .literal cs :: es => (literals? es).map (bytesOf cs :: ·)
  | _ => none

/-- The automaton of a choice between literals. -/
def ofLiterals (backward : Bool) (ls : List (List Nat)) : Part := do
  states 1
  (ls.foldl (fun t l => t.insert (if backward then l.reverse else l)) Trie.empty).count
  return false

/-! ## Patterns -/

/-- `n` more copies of a part behind another. -/
def copies (one : Part) : Nat → Bool → Part
  | 0, b => pure b
  | n + 1, b => do copies one n (← behind b one)

/-- `n` optional copies behind a part, all of which can leave to one state. -/
def optional (one : Part) : Nat → Bool → Part
  | 0, b => do
    leave b
    return false
  | n + 1, b => do
    states 1
    let c ← behind b one
    links 2
    optional one n c

def bounded (one : Part) (min max : Nat) : Part := do
  if min == 0 && max == 1 then
    states 1
    let b ← one
    states 1
    links 2
    leave b
    return false
  else
    let b ← match min with
      | 0 => single
      | n + 1 => do copies one n (← one)
    if min == max then return b
    else
      states 1
      optional one (max - min) b

/-- A repetition without bound of something that always takes a character (`substantial`) or not. -/
def unbounded (one : Part) (substantial : Bool) (min : Nat) : Part := do
  match min with
  | 0 =>
    if substantial then
      states 1
      let b ← one
      links 1
      leave b
      return true
    else
      let b ← one
      leave b
      states 3
      links 4
      return false
  | n + 1 =>
    let b ← copies one n (← one)
    states 1
    leave b
    links 1
    return true

mutual
/-- The automaton of a pattern; only the one that is read forwards notes groups. -/
def ofExpr (backward : Bool) : Expr → Part
  | .empty | .assertion _ => single
  | .literal cs => do
    states (bytesOf cs).length
    return false
  | .set s => ofSet backward s
  | .group _ e =>
    if backward then ofExpr backward e
    else do
      states 1
      let b ← ofExpr backward e
      states 1
      leave b
      return false
  | .cat es => if backward then ofBackward es else ofForward es
  | .alt es =>
    match literals? es with
    | some ls => ofLiterals backward ls
    | none => ofAny backward es
  | .rep min none _ e => unbounded (ofExpr backward e) e.isSubstantial min
  | .rep min (some max) _ e => bounded (ofExpr backward e) min max

/-- The parts of a sequence from the first to the last. -/
def ofForward : List Expr → Part
  | [] => single
  | e :: es => do ofRest (← ofExpr false e) es

/-- The parts of a sequence behind its first. -/
def ofRest (branching : Bool) : List Expr → Part
  | [] => return branching
  | e :: es => do ofRest (← behind branching (ofExpr false e)) es

/-- The parts of a sequence from the last to the first. -/
def ofBackward : List Expr → Part
  | [] => single
  | [e] => ofExpr true e
  | e :: es => do behind (← ofBackward es) (ofExpr true e)

/-- A choice: the first two alternatives come before the states at which it begins and ends. -/
def ofAny (backward : Bool) : List Expr → Part
  | [] => single
  | [e] => ofExpr backward e
  | e :: f :: es => do
    let b ← ofExpr backward e
    let c ← ofExpr backward f
    states 2
    links 2
    leave b
    leave c
    ofOthers backward es
    return false

def ofOthers (backward : Bool) : List Expr → Count Unit
  | [] => pure ()
  | e :: es => do
    let b ← ofExpr backward e
    links 1
    leave b
    ofOthers backward es
end

mutual
/-- Does every match begin at the start of the text (or end at its end)? -/
def isAnchored (a : Assertion) : Expr → Bool
  | .empty | .literal _ | .set _ => false
  | .assertion b => a == b
  | .group _ e => isAnchored a e
  | .cat es => if a == .textEnd then isAnchoredLast a es else isAnchoredFirst a es
  | .alt es => isAnchoredAny a es
  | .rep min _ _ e => 0 < min && isAnchored a e

def isAnchoredFirst (a : Assertion) : List Expr → Bool
  | [] => false
  | e :: es => isAnchored a e || (e.isEmptyOnly && isAnchoredFirst a es)

def isAnchoredLast (a : Assertion) : List Expr → Bool
  | [] => false
  | e :: es => isAnchoredLast a es || (Expr.isEmptyOnlyAll es && isAnchored a e)

def isAnchoredAny (a : Assertion) : List Expr → Bool
  | [] => true
  | e :: es => isAnchored a e && isAnchoredAny a es
end

/-- The automaton of a whole pattern in one direction: in front of it any bytes may be skipped unless the pattern holds
only at the one end of the text. -/
def whole (backward : Bool) (e : Expr) : Count Unit := do
  if isAnchored (if backward then .textEnd else .textStart) e then states 1
  else
    states 2
    let _ ← state 8
    links 2
  let b ← if backward then ofExpr true e else ofExpr false (.group 0 e)
  states 1
  leave b

def fits (e : Expr) : Bool :=
  ((whole false e).run ⟨0, 0⟩).isSome && ((whole true e).run ⟨0, 0⟩).isSome

end Harvest.Pattern.Size
