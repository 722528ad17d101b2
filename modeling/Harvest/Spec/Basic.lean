import Harvest.Spec.Selector
import Harvest.Spec.Tag
/-!
# Specs

A spec is a tree of nodes that says what to extract: each node has a name, a selector, a type, a chain of filters and
children.
-/
namespace Harvest

/-- A node of a spec with all nodes below it. -/
structure Spec where
  name : String := ""
  selector : Selector := .current
  tag : Tag := .unknown ""
  /-- An expression for a chain of filters. -/
  filter : String := ""
  children : List Spec := []
  deriving Repr, Inhabited

namespace Spec

def ofTag (tag : Tag) : Spec := { tag }

def named (s : Spec) (name : String) : Spec := { s with name }

/-- The node with the selector that a text writes. -/
def withSelector (s : Spec) (text : String) : Spec := { s with selector := .ofText text }

def withFilter (s : Spec) (filter : String) : Spec := { s with filter }

def withChildren (s : Spec) (children : List Spec) : Spec := { s with children }

/-- The names of the fields in their order. -/
def fieldNames : List String := ["name", "selector", "type", "filter", "subitem"]

def setText (s : Spec) (field text : String) : Spec :=
  if field == "name" then s.named text
  else if field == "selector" then s.withSelector text
  else if field == "type" then { s with tag := .ofText text }
  else if field == "filter" then s.withFilter text
  else s

def namedChildren (s : Spec) : List Spec := s.children.filter fun c => !c.name.isEmpty

/-- The one child of a node that evaluates it again and again. -/
def template (s : Spec) : Except ExtractError Spec :=
  match s.children with
  | [] => .error (.schema (.noTemplate s.tag.toText))
  | [only] => .ok only
  | many => .error (.schema (.manyTemplates s.tag.toText many.length))

end Spec

end Harvest
