import Harvest.Pattern.Extended.Machine
import Harvest.Pattern.Extended.Reader
/-!
# Compiled patterns

`Regex.compile` reads a pattern in one of two grammars and makes it ready to search.  A plain pattern is searched in
time proportional to the text, one of the extended grammar too unless it needs more than plain matching.
-/
namespace Harvest.Pattern

/-- How a pattern is searched. -/
inductive Search where
  | linear (code : Array Inst)
  | machine (program : Extended.Build)
  deriving DecidableEq

/-- A compiled pattern: how many groups it has, group 0 among them, and the names of groups. -/
structure Regex where
  method : Search
  groups : Nat
  names : List (String × Nat)
  deriving DecidableEq

namespace Regex

def plain (names : List (String × Nat)) (pattern : List Char) : Except Fault Regex := do
  let e ← Reader.read pattern
  return ⟨.linear e.program, e.lastGroup + 1, names⟩

def extended (pattern : List Char) : Except Fault Regex := do
  let p ← Extended.Reader.read pattern
  if p.expr.hard then return ⟨.machine (← Extended.program p.groups p.expr), p.groups, p.names⟩
  else plain p.names (p.expr.render 0)

def compile : Engine → String → Except Fault Regex
  | .standard, pattern => plain [] pattern.toList
  | .extended, pattern => extended pattern.toList

/-- The first match that starts at or behind a position; `origin` is where it may go on from the match before, if it
may. -/
def searchFrom (r : Regex) (text : Array Char) (start : Nat) (origin : Option Nat) :
    Except Failure (Option Captures) :=
  match r.method with
  | .linear code => .ok ((Linear.search? code text start).map fun s => s.captures r.groups)
  | .machine program => Extended.Machine.search program r.groups text start origin

/-- The first match that starts at or behind a position, where it may go on from the match before. -/
def search (r : Regex) (text : Array Char) (start : Nat) : Except Failure (Option Captures) :=
  r.searchFrom text start (some start)

/-- Does the pattern match somewhere in the text? -/
def isMatch (r : Regex) (text : String) : Except Failure Bool := do
  return (← r.search text.toList.toArray 0).isSome

end Regex

def spanText (text : Array Char) (span : Nat × Nat) : List Char := (text.extract span.1 span.2).toList

/-- The texts of a match's groups; a group that took no part has an empty one. -/
def groupTexts (text : Array Char) (c : Captures) : List String :=
  c.toList.map fun s => String.ofList ((s.map (spanText text)).getD [])

/-- The texts of the groups of the first match. -/
def Regex.firstMatch (r : Regex) (text : String) : Except Failure (Option (List String)) := do
  let cs := text.toList.toArray
  return (← r.search cs 0).map (groupTexts cs)

/-- The text that a match stands for: that of group 1, or of the whole match if there are no groups. -/
def scalarOf : List String → String
  | [whole] => whole
  | _ :: first :: _ => first
  | [] => ""

/-- The texts that a match stands for: those of its groups, or of the whole match if there are none. -/
def listOf : List String → List String
  | [whole] => [whole]
  | _ :: rest => rest
  | [] => []

end Harvest.Pattern
