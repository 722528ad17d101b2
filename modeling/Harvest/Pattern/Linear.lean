import Std.Data.TreeSet
import Harvest.Pattern.Program
/-!
# Matching in time proportional to the text

A program is run by trying its branches in their order of preference.  No place of the program is tried twice at one
position of the text: what failed there once fails again.  So a run takes at most as many steps as there are places and
positions.
-/
namespace Harvest.Pattern

/-- The spans of a match's groups, the whole match first; a group that took no part has none. -/
abbrev Captures := Array (Option (Nat × Nat))

/-- The positions noted on the way, the newest first. -/
abbrev Slots := List (Nat × Nat)

def Slots.find? (slot : Nat) (s : Slots) : Option Nat :=
  (List.find? (fun p => p.1 == slot) s).map Prod.snd

def Slots.span? (s : Slots) (group : Nat) : Option (Nat × Nat) :=
  match Slots.find? (2 * group) s, Slots.find? (2 * group + 1) s with
  | some a, some b => some (a, b)
  | _, _ => none

def Slots.captures (s : Slots) (groups : Nat) : Captures := ((List.range groups).map s.span?).toArray

namespace Linear

/-- A place in the program and a position in the text that are still to be tried. -/
structure Thread where
  pc : Nat
  pos : Nat
  slots : Slots

/-- Tries threads in their order until one reaches the end of the program. -/
def explore (prog : Array Inst) (text : Array Char) :
    Nat → Std.TreeSet Nat → List Thread → Option Thread × Std.TreeSet Nat
  | 0, seen, _ => (none, seen)
  | _ + 1, seen, [] => (none, seen)
  | fuel + 1, seen, t :: rest =>
    let key := t.pos * prog.size + t.pc
    if seen.contains key then explore prog text fuel seen rest
    else
      let seen := seen.insert key
      match prog[t.pc]? with
      | none => explore prog text fuel seen rest
      | some .accept => (some t, seen)
      | some (.char s) =>
        if atPos text t.pos s.contains then
          explore prog text fuel seen (⟨t.pc + 1, t.pos + 1, t.slots⟩ :: rest)
        else explore prog text fuel seen rest
      | some (.assert a) =>
        if a.holds text t.pos then explore prog text fuel seen (⟨t.pc + 1, t.pos, t.slots⟩ :: rest)
        else explore prog text fuel seen rest
      | some (.save slot) =>
        explore prog text fuel seen (⟨t.pc + 1, t.pos, (slot, t.pos) :: t.slots⟩ :: rest)
      | some (.split a b) =>
        explore prog text fuel seen (⟨a, t.pos, t.slots⟩ :: ⟨b, t.pos, t.slots⟩ :: rest)
      | some (.jump a) => explore prog text fuel seen (⟨a, t.pos, t.slots⟩ :: rest)

def steps (prog : Array Inst) (text : Array Char) : Nat := 3 * (prog.size + 1) * (text.size + 2)

def scan (prog : Array Inst) (text : Array Char) : Nat → Nat → Std.TreeSet Nat → Option Thread
  | 0, _, _ => none
  | fuel + 1, start, seen =>
    if start > text.size then none
    else match explore prog text (steps prog text) seen [⟨0, start, []⟩] with
      | (some t, _) => some t
      | (none, seen) => scan prog text fuel (start + 1) seen

/-- The slots of the first match that starts at or behind a position. -/
def search? (prog : Array Inst) (text : Array Char) (start : Nat) : Option Slots :=
  (scan prog text (text.size + 1) start {}).map Thread.slots

/-- The slots and the end of the match that starts at a position. -/
def matchAt? (prog : Array Inst) (text : Array Char) (start : Nat) : Option (Slots × Nat) :=
  ((explore prog text (steps prog text) {} [⟨0, start, []⟩]).1).map fun t => (t.slots, t.pos)

end Linear

end Harvest.Pattern
