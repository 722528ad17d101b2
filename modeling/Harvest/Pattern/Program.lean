import Harvest.Pattern.Expr
/-!
# Programs of patterns

`Expr.program` is the program of a pattern: instructions that read a character, test a position, note a position or
branch, the branch to prefer first.  Repetitions are written out.
-/
namespace Harvest.Pattern

open Harvest.Unicode (CharSet)

/-- One step of a program; targets are places in it. -/
inductive Inst where
  | char (s : CharSet)
  | assert (a : Assertion)
  | save (slot : Nat)
  | split (first second : Nat)
  | jump (target : Nat)
  | accept
  deriving Inhabited, DecidableEq

namespace Expr

/-- A branch that prefers to go on, or one that prefers to leave. -/
def branch (greedy : Bool) (on out : Nat) : Inst := if greedy then .split on out else .split out on

/-- Puts branches that go on behind themselves or leave to the end of the program at some places. -/
def leaveFrom (places : List Nat) (greedy : Bool) (p : Array Inst) : Array Inst :=
  let out := p.size
  places.foldl (fun p i => p.setIfInBounds i (branch greedy (i + 1) out)) p

/-- Writes `n` optional copies, one inside the other. -/
def optional (write : Array Inst → Array Inst) (greedy : Bool) (n : Nat) (p : Array Inst) : Array Inst :=
  let (p, places) := Nat.repeat (fun (q : Array Inst × List Nat) =>
    let (p, places) := q
    let place := p.size
    (write (p.push .accept), place :: places)) n (p, [])
  leaveFrom places greedy p

/-- Writes a repetition without bound, of something that always takes a character (`substantial`) or not. -/
def unbounded (write : Array Inst → Array Inst) (greedy substantial : Bool) (min : Nat) (p : Array Inst) :
    Array Inst :=
  match min with
  | 0 =>
    let place := p.size
    let p := write (p.push .accept)
    let p := if substantial then p.push (.jump place) else
      let out := p.size + 1
      p.push (branch greedy (place + 1) out)
    leaveFrom [place] greedy p
  | n + 1 =>
    let p := Nat.repeat write n p
    let place := p.size
    let p := write p
    let out := p.size + 1
    p.push (branch greedy place out)

mutual
/-- Writes the program of a pattern behind another program; it leaves behind its last instruction. -/
def write : Expr → Array Inst → Array Inst
  | .empty, p => p
  | .literal cs, p => cs.foldl (fun p c => p.push (.char (.singleton c))) p
  | .set s, p => p.push (.char s)
  | .assertion a, p => p.push (.assert a)
  | .group i e, p => (write e (p.push (.save (2 * i)))).push (.save (2 * i + 1))
  | .cat es, p => writeAll es p
  | .alt es, p => writeAny es p
  | .rep min none greedy e, p => unbounded (write e) greedy (isSubstantial e) min p
  | .rep min (some max) greedy e, p => optional (write e) greedy (max - min) (Nat.repeat (write e) min p)

def writeAll : List Expr → Array Inst → Array Inst
  | [], p => p
  | e :: es, p => writeAll es (write e p)

def writeAny : List Expr → Array Inst → Array Inst
  | [], p => p.push (.char .empty)
  | [e], p => write e p
  | e :: es, p =>
    let place := p.size
    let p := write e (p.push .accept)
    let leave := p.size
    let p := (p.push .accept).setIfInBounds place (.split (place + 1) (leave + 1))
    let p := writeAny es p
    let out := p.size
    p.setIfInBounds leave (.jump out)
end

/-- The program of a whole pattern, whose match is group 0. -/
def program (e : Expr) : Array Inst := (write (.group 0 e) #[]).push .accept

end Expr

end Harvest.Pattern
