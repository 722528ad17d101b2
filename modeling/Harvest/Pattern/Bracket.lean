import Harvest.Pattern.Escape
/-!
# Bracketed classes

A class in brackets holds characters, ranges, named classes and further brackets, and joins operands by intersection,
difference and symmetric difference.  Reading yields the set and how deep the class is nested.
-/
namespace Harvest.Pattern.Reader

open Harvest.Unicode (CharSet)

def maxNesting : Nat := 250

/-- The ranges of a class of ASCII, by its name. -/
def asciiClass? (name : String) : Option CharSet :=
  let set (rs : List (Nat × Nat)) := some (CharSet.ofRanges rs)
  match name with
  | "alnum" => set [(0x30, 0x39), (0x41, 0x5A), (0x61, 0x7A)]
  | "alpha" => set [(0x41, 0x5A), (0x61, 0x7A)]
  | "ascii" => set [(0, 0x7F)]
  | "blank" => set [(9, 9), (0x20, 0x20)]
  | "cntrl" => set [(0, 0x1F), (0x7F, 0x7F)]
  | "digit" => set [(0x30, 0x39)]
  | "graph" => set [(0x21, 0x7E)]
  | "lower" => set [(0x61, 0x7A)]
  | "print" => set [(0x20, 0x7E)]
  | "punct" => set [(0x21, 0x2F), (0x3A, 0x40), (0x5B, 0x60), (0x7B, 0x7E)]
  | "space" => set [(9, 13), (0x20, 0x20)]
  | "upper" => set [(0x41, 0x5A)]
  | "word" => set [(0x30, 0x39), (0x41, 0x5A), (0x5F, 0x5F), (0x61, 0x7A)]
  | "xdigit" => set [(0x30, 0x39), (0x41, 0x46), (0x61, 0x66)]
  | _ => none

/-- A class of ASCII behind its `[`: its set, whether it is turned round, and the text behind it. -/
def bracketName? (cs : List Char) : Option (CharSet × Bool × List Char) :=
  match cs with
  | ':' :: rest =>
    let (negated, rest) := match rest with
      | '^' :: r => (true, r)
      | r => (false, r)
    let name := rest.takeWhile (· != ':')
    match rest.drop name.length with
    | ':' :: ']' :: after => (asciiClass? (String.ofList name)).map fun s => (s, negated, after)
    | _ => none
  | _ => none

/-- The characters that a class may hold where it is not to know more than ASCII. -/
def isMember (m : Mode) (c : Char) : Bool := m.unicode || c.toNat ≤ 0x7F

/-- One element of a class that is no nested class: a character, or a set that no range can start or end with. -/
def classItem (m : Mode) (cs : List Char) : Except Fault (Escape × List Char) :=
  match cs with
  | [] => malformed
  | '\\' :: rest =>
    match escape m rest with
    | .ok (.assertion _, _) => malformed
    | .ok (.literal c, rest) => if isMember m c then .ok (.literal c, rest) else malformed
    | r => r
  | c :: rest => if isMember m c then .ok (.literal c, rest) else malformed

/-- A character, a set, or a range of characters. -/
def classRange (m : Mode) (cs : List Char) : Except Fault (CharSet × List Char) := do
  let (first, rest) ← classItem m cs
  let single : Except Fault (CharSet × List Char) := match first with
    | .literal c => .ok (.singleton c, skip m rest)
    | .set s => .ok (s, skip m rest)
    | .assertion _ => malformed
  match skip m rest with
  | [] => malformed
  | '-' :: more =>
    if glimpse m more == some ']' || glimpse m more == some '-' then single
    else
      let (second, rest) ← classItem m (skip m more)
      match first, second with
      | .literal a, .literal b => if a.toNat ≤ b.toNat then .ok (.between a b, rest) else malformed
      | _, _ => malformed
  | _ => single

/-! ## Operands -/

/-- The operations between the operands of a class. -/
inductive SetOp where
  | inter
  | diff
  | symmDiff

/-- What has been read of an operand: its set, how many elements it has, and how deep they are nested. -/
structure Operand where
  set : CharSet
  items : Nat
  depth : Nat

namespace Operand

def empty : Operand := ⟨.empty, 0, 0⟩

/-- The operand with one more element. -/
def add (o : Operand) (s : CharSet) (depth : Nat) : Operand := ⟨o.set.union s, o.items + 1, max o.depth depth⟩

/-- How deep the operand is nested: several elements are one deeper than each of them. -/
def nesting (o : Operand) : Nat := if o.items > 1 then o.depth + 1 else o.depth

end Operand

/-- The operation on two operands, with their case variants where case does not count. -/
def SetOp.apply (m : Mode) (op : SetOp) (s t : CharSet) : CharSet :=
  match op with
  | inter => CharSet.inter (fold m s) (fold m t)
  | diff => CharSet.diff (fold m s) (fold m t)
  | symmDiff => CharSet.symmDiff (fold m s) (fold m t)

/-- The operand so far, put to the operation that waits for it. -/
def settle (m : Mode) (pending : Option (SetOp × Operand)) (o : Operand) : Operand :=
  match pending with
  | some (op, left) => ⟨op.apply m left.set o.set, 1, max left.nesting o.nesting + 1⟩
  | none => o

def hyphens (m : Mode) : Nat → Operand → List Char → Operand × List Char
  | 0, o, cs => (o, cs)
  | fuel + 1, o, cs =>
    match cs with
    | '-' :: rest => hyphens m fuel (o.add (.singleton '-') 0) (skip m rest)
    | _ => (o, cs)

mutual
/-- A class behind its opening bracket, inside `level` others. -/
def bracketed (m : Mode) (level : Nat) : Nat → List Char → Except Fault (CharSet × Nat × List Char)
  | 0, _ => malformed
  | fuel + 1, cs => do
    if level ≥ maxNesting then malformed
    else
      let (negated, cs) := match skip m cs with
        | '^' :: rest => (true, skip m rest)
        | cs => (false, cs)
      let (o, cs) := hyphens m cs.length .empty cs
      let (o, cs) := match o.items, cs with
        | 0, ']' :: rest => (o.add (.singleton ']') 0, rest)
        | _, cs => (o, cs)
      let (o, rest) ← classBody m (level + 1) fuel none o cs
      return (← negateIf m negated (fold m o.set), o.nesting + 1, rest)

/-- The rest of a class, with the operand so far in hand. -/
def classBody (m : Mode) (level : Nat) :
    Nat → Option (SetOp × Operand) → Operand → List Char → Except Fault (Operand × List Char)
  | 0, _, _, _ => malformed
  | fuel + 1, pending, o, cs =>
    match skip m cs with
    | [] => malformed
    | ']' :: rest => .ok (settle m pending o, rest)
    | '[' :: rest =>
      match bracketName? rest with
      | some (s, negated, rest) => do
        let s ← negateIf m negated (fold m s)
        classBody m level fuel pending (o.add s 0) rest
      | none => do
        let (s, depth, rest) ← bracketed m level fuel rest
        classBody m level fuel pending (o.add s depth) rest
    | '&' :: '&' :: rest => classBody m level fuel (some (.inter, settle m pending o)) .empty rest
    | '-' :: '-' :: rest => classBody m level fuel (some (.diff, settle m pending o)) .empty rest
    | '~' :: '~' :: rest => classBody m level fuel (some (.symmDiff, settle m pending o)) .empty rest
    | cs => do
      let (s, rest) ← classRange m cs
      classBody m level fuel pending (o.add s 0) rest
end

end Harvest.Pattern.Reader
