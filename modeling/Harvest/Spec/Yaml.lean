import Harvest.Spec.Basic
import Harvest.Yaml.Node
/-!
# Specs as YAML texts

A node is a mapping of its fields, of which any may be missing.  A scalar is taken as it is written, so it needs no
quotes to be a string; an empty one, or none at all, stands for an empty mapping or sequence.
-/
namespace Harvest.Spec

open Harvest.Yaml (Node Document)

/-- A step of reading a spec, with how many more aliases may be followed. -/
abbrev FromYaml (α : Type) := StateT Nat Option α

namespace FromYaml

/-- What a node stands for.  Following an alias uses up one of those allowed. -/
def resolve (d : Document) (n : Node) : FromYaml Node := do
  match n with
  | .alias _ =>
    match ← get with
    | 0 => failure
    | left + 1 =>
      set left
      d.target? n
  | n => return n

def text (d : Document) (n : Node) : FromYaml String := do
  match ← resolve d n with
  | .scalar _ s => return s
  | _ => failure

/-- The pairs of a mapping, which must not be there where no levels are left. -/
def pairs (d : Document) (levels : Nat) (n : Node) : FromYaml (List (Node × Node)) := do
  match ← resolve d n with
  | .mapping ps => if levels == 0 then failure else return ps
  | .scalar true "" => return []
  | _ => failure

/-- The items of a sequence, which must not be there where no levels are left. -/
def items (d : Document) (levels : Nat) (n : Node) : FromYaml (List Node) := do
  match ← resolve d n with
  | .sequence ns => if levels == 0 then failure else return ns
  | .scalar true "" => return []
  | _ => failure

/-- The values of a list of nodes, read from first to last. -/
def each {α : Type} (f : Node → FromYaml α) : List Node → FromYaml (List α)
  | [] => return []
  | n :: ns => do
    let a ← f n
    return a :: (← each f ns)

/-- The spec so far with the fields of a mapping; `seen` holds the fields it has, and `children` reads those of a
node.  No field may come twice, and fields of other names do not count. -/
def fields (d : Document) (children : Node → FromYaml (List Spec)) (s : Spec) (seen : List String) :
    List (Node × Node) → FromYaml Spec
  | [] => return s
  | (k, v) :: rest => do
    let name ← text d k
    if !fieldNames.contains name then fields d children s seen rest
    else if seen.contains name then failure
    else if name == "subitem" then fields d children (s.withChildren (← children v)) (name :: seen) rest
    else fields d children (s.setText name (← text d v)) (name :: seen) rest

/-- The spec of a node, where `levels` levels of mappings and sequences are left. -/
def spec (d : Document) : Nat → Node → FromYaml Spec
  | 0, n => do fields d (fun _ => failure) {} [] (← pairs d 0 n)
  | 1, n => do fields d (fun v => do each (fun _ => failure) (← items d 0 v)) {} [] (← pairs d 1 n)
  | levels + 2, n => do
    fields d (fun v => do each (spec d levels) (← items d (levels + 1) v)) {} [] (← pairs d (levels + 2) n)

end FromYaml

/-- The most mappings and sequences that may be inside each other. -/
def maxYamlLevels : Nat := 128

/-- The spec of a YAML text; of its aliases, at most a hundred may be followed for each start or end of a node. -/
def ofYaml (text : String) : Except ExtractError Spec :=
  let spec? : Option Spec := do
    let d ← Document.parse? text
    match d.root with
    | none => return {}
    | some root => return (← (FromYaml.spec d maxYamlLevels root).run (d.size * 100)).1
  match spec? with
  | some s => .ok s
  | none => .error (.decode (.specYaml text))

end Harvest.Spec
