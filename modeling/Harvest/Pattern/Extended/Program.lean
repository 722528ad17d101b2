import Harvest.Pattern.Extended.Expr
import Harvest.Pattern.Program
import Harvest.Pattern.Reader
/-!
# Programs of extended patterns

The program of an extended pattern for a machine that goes back to the last branch it left open.  A part that is not
hard is handed over as a plain program, where nothing behind it could make the machine come back to it.
-/
namespace Harvest.Pattern.Extended

/-- One instruction; targets are places in the program, slots hold positions and counts. -/
inductive XInst where
  | accept
  | any (newline : Bool)
  | text (cs : List Char)
  | assert (a : Assertion)
  | split (first second : Nat)
  | jump (target : Nat)
  | save (slot : Nat)
  | clear (slot : Nat)
  | restore (slot : Nat)
  /-- Counts a round of a bounded repetition and leaves to `next` when all are done or no more is wanted. -/
  | count (min : Nat) (max : Option Nat) (greedy : Bool) (next slot : Nat)
  /-- The same for rounds that may match nothing: none begins where the one before began. -/
  | countEmpty (min : Nat) (greedy : Bool) (next slot check : Nat)
  | goBack (n : Nat)
  /-- Gives up all branches opened since the one that leads behind this instruction, and fails. -/
  | failLook
  | backref (group : Nat)
  | matched (group : Nat)
  | beginAtomic
  | endAtomic
  /-- Runs a plain program and takes over its groups, the first of them as the first of these numbers. -/
  | plain (prog : Array Inst) (groups : List Nat)
  | searchStart
  deriving Inhabited, DecidableEq

/-- A program being written, and how many slots it has. -/
structure Build where
  code : Array XInst
  slots : Nat
  deriving DecidableEq

namespace Build

def here (b : Build) : Nat := b.code.size

def push (b : Build) (i : XInst) : Build := { b with code := b.code.push i }

/-- Puts an instruction in place of the one at `at_`. -/
def patch (b : Build) (at_ : Nat) (i : XInst) : Build := { b with code := b.code.setIfInBounds at_ i }

def newSlot (b : Build) : Nat × Build := (b.slots, { b with slots := b.slots + 1 })

end Build

def handOver (es : List XExpr) (b : Build) : Except Fault Build :=
  if es.isEmpty then .ok b
  else match XExpr.literals? es with
    | some cs => .ok (b.push (.text cs))
    | none => do
      let e ← Pattern.Reader.read (es.flatMap (XExpr.render 1))
      return b.push (.plain ((e.write #[]).push .accept) (XExpr.groupsAll es))

/-- A branch that prefers to go on to the next instruction, or one that prefers to leave. -/
def branchTo (greedy : Bool) (on out : Nat) : XInst := if greedy then .split on out else .split out on

/-- How many parts at the front of a sequence can be handed over together. -/
def leadCount (es : List XExpr) : Nat :=
  (es.takeWhile fun e => e.constSize && !e.hard).length

/-- How many parts at the end can be handed over together; behind hard parts only those of one size. -/
def tailCount (hard : Bool) (es : List XExpr) : Nat :=
  (es.reverse.takeWhile fun e => !e.hard && (!hard || e.constSize)).length

/-- The program of a lookaround around the instructions that `inner` writes. -/
def lookAround (ahead negated : Bool) (e : XExpr) (inner : Build → Except Fault Build) (b : Build) :
    Except Fault Build := do
  let back (b : Build) : Except Fault Build :=
    if ahead then .ok b
    else if e.constSize then .ok (b.push (.goBack e.minSize))
    else .error .malformed
  if negated then
    let pc := b.here
    let b ← inner (← back (b.push (.split 0 0)))
    let b := b.push .failLook
    return b.patch pc (.split (pc + 1) b.here)
  else
    let (slot, b) := b.newSlot
    let b ← inner (← back (b.push (.save slot)))
    return b.push (.restore slot)

/-- The program of a repetition around the instructions that `inner` writes. -/
def repetition (min : Nat) (max : Option Nat) (greedy : Bool) (e : XExpr) (inner : Build → Except Fault Build)
    (b : Build) : Except Fault Build := do
  if min == 0 && max == some 1 then
    let pc := b.here
    let b ← inner (b.push (.split 0 0))
    return b.patch pc (branchTo greedy (pc + 1) b.here)
  else if max.isNone && e.minSize == 0 then
    let (slot, b) := b.newSlot
    let (check, b) := b.newSlot
    let b := b.push (.clear slot)
    let pc := b.here
    let b ← inner (b.push .accept)
    let b := b.push (.jump pc)
    return b.patch pc (.countEmpty min greedy b.here slot check)
  else if min == 0 && max.isNone then
    let pc := b.here
    let b ← inner (b.push (.split 0 0))
    let b := b.push (.jump pc)
    return b.patch pc (branchTo greedy (pc + 1) b.here)
  else if min == 1 && max.isNone then
    let pc := b.here
    let b ← inner b
    return b.push (branchTo greedy pc (b.here + 1))
  else
    let (slot, b) := b.newSlot
    let b := b.push (.clear slot)
    let pc := b.here
    let b ← inner (b.push .accept)
    let b := b.push (.jump pc)
    return b.patch pc (.count min max greedy b.here slot)

mutual
/-- Writes the program of a pattern; `hard` says that something behind it may make the machine come back. -/
def write (hard : Bool) : XExpr → Build → Except Fault Build
  | e@(.cat es), b =>
    if !hard && !e.hard then handOver [e] b
    else do
      let lead := leadCount es
      let tail := tailCount hard (es.drop lead)
      let b ← handOver (es.take lead) b
      let b ← writeMiddle lead (es.length - lead - tail) es b
      handOver (es.drop (es.length - tail)) b
  | e@(.alt es), b => if !hard && !e.hard then handOver [e] b else writeAny hard es b
  | e@(.group i inner), b =>
    if !hard && !e.hard then handOver [e] b
    else do
      let b ← write hard inner (b.push (.save (2 * i)))
      return b.push (.save (2 * i + 1))
  | e@(.rep min max greedy inner), b =>
    if !hard && !e.hard then handOver [e] b
    else
      let within := if min == 0 && max == some 1 then hard else hard || e.hard
      repetition min max greedy inner (write within inner) b
  | .look true negated e, b => lookAround true negated e (write false e) b
  | .look false negated (.alt es), b =>
    if XExpr.constSizeAny es then
      lookAround false negated (.alt es) (if XExpr.hardAny es then writeAny false es else handOver [.alt es]) b
    else if negated then writeNotBehind es b
    else writeBehind es b
  | .look false negated e, b => lookAround false negated e (write false e) b
  | .atomic e, b => do
    let b ← write false e (b.push .beginAtomic)
    return b.push .endAtomic
  | .cond test yes no, b => do
    let b := b.push .beginAtomic
    let pc := b.here
    let b ← write hard test (b.push (.split 0 0))
    let b ← write hard yes (b.push .endAtomic)
    let leave := b.here
    let b := b.push (.jump 0)
    let b := b.patch pc (.split (pc + 1) b.here)
    let b ← write hard no b
    return b.patch leave (.jump b.here)
  | .empty, b => .ok b
  | .any newline, b => .ok (b.push (.any newline))
  | .literal c caseless, b => handOver [.literal c caseless] b
  | .named text caseless, b => handOver [.named text caseless] b
  | .assertion a, b => .ok (b.push (.assert a))
  | .backref g, b => .ok (b.push (.backref g))
  | .matched g, b => .ok (b.push (.matched g))
  | .keepOut, b => .ok (b.push (.save 0))
  | .searchStart, b => .ok (b.push .searchStart)

/-- Writes the parts of a sequence behind the first `skip`, `keep` of them. -/
def writeMiddle : Nat → Nat → List XExpr → Build → Except Fault Build
  | _, _, [], b => .ok b
  | skip + 1, keep, _ :: es, b => writeMiddle skip keep es b
  | 0, 0, _ :: _, b => .ok b
  | 0, keep + 1, e :: es, b => do
    let b ← write true e b
    writeMiddle 0 keep es b

/-- Writes alternatives, the first of them to be tried first. -/
def writeAny (hard : Bool) : List XExpr → Build → Except Fault Build
  | [], b => .ok b
  | [e], b => write hard e b
  | e :: es, b => do
    let pc := b.here
    let b ← write hard e (b.push (.split 0 0))
    let leave := b.here
    let b := b.push (.jump 0)
    let b := b.patch pc (.split (pc + 1) b.here)
    let b ← writeAny hard es b
    return b.patch leave (.jump b.here)

/-- Writes a look behind at alternatives of different sizes, one after the other. -/
def writeBehind : List XExpr → Build → Except Fault Build
  | [], b => .ok b
  | [e], b => lookAround false false e (write false e) b
  | e :: es, b => do
    let pc := b.here
    let b ← lookAround false false e (write false e) (b.push (.split 0 0))
    let leave := b.here
    let b := b.push (.jump 0)
    let b := b.patch pc (.split (pc + 1) b.here)
    let b ← writeBehind es b
    return b.patch leave (.jump b.here)

/-- Writes that none of several alternatives stands before the position. -/
def writeNotBehind : List XExpr → Build → Except Fault Build
  | [], b => .ok b
  | e :: es, b => do
    let b ← lookAround false true e (write false e) b
    writeNotBehind es b
end

/-- The program of a whole pattern with `groups` groups: it looks for a match from the search's start on, later starts
last, and the match is group 0. -/
def program (groups : Nat) (e : XExpr) : Except Fault Build := do
  let search : Build := ⟨#[.split 3 1, .any true, .jump 0, .save 0], 2 * groups⟩
  let b ← write true e search
  return (b.push (.save 1)).push .accept

end Harvest.Pattern.Extended
