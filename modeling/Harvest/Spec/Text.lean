import Harvest.Json.Source
import Harvest.Spec.Basic
/-!
# Specs as JSON texts

A node is an object of its fields, of which any may be missing, or an array of them in their order.  `write` leaves out
empty fields but always writes the type; `parse` reads a text of at most 127 levels.
-/
namespace Harvest.Spec

open Harvest.Json (Source)

/-! ## Writing -/

/-- The fields before the children that are written. -/
def plainFields (s : Spec) : List (String × String) :=
  (if s.name.isEmpty then [] else [("name", s.name)])
    ++ (if s.selector.isCurrent then [] else [("selector", s.selector.toText)])
    ++ [("type", s.tag.toText)]
    ++ (if s.filter.isEmpty then [] else [("filter", s.filter)])

def writeField (f : String × String) : List Char := Json.quoted f.1 ++ ':' :: Json.quoted f.2

mutual
def write : Spec → List Char
  | ⟨name, selector, tag, filter, children⟩ =>
    '\x7b' :: (Text.join [','] ((plainFields ⟨name, selector, tag, filter, []⟩).map writeField)
      ++ (match children with
        | [] => []
        | c :: cs => ',' :: (Json.quoted "subitem" ++ ':' :: '[' :: (write c ++ writeRest cs)))
      ++ ['\x7d'])

/-- The children after the first, and the end of their array. -/
def writeRest : List Spec → List Char
  | [] => [']']
  | c :: cs => ',' :: (write c ++ writeRest cs)
end

/-- The compact text of a node, as a string. -/
def render (s : Spec) : String := String.ofList s.write

/-! ## Reading -/

mutual
/-- The spec of a tree of at most `depth` levels. -/
def ofSource? (depth : Nat) : Source → Option Spec
  | .object fields =>
    match depth with
    | 0 => none
    | d + 1 => ofFields? d {} [] fields
  | .array items =>
    match depth with
    | 0 => none
    | d + 1 => ofItems? d {} fieldNames items
  | _ => none

/-- The node so far with the fields of an object; `seen` holds the fields it has, no field may come twice, and fields of
other names do not count. -/
def ofFields? (depth : Nat) (s : Spec) (seen : List String) : List (Option String × Source) → Option Spec
  | [] => some s
  | (none, _) :: _ => none
  | (some name, value) :: rest =>
    if !fieldNames.contains name then ofFields? depth s seen rest
    else if seen.contains name then none
    else match value with
      | .string (some text) =>
        if name == "subitem" then none else ofFields? depth (s.setText name text) (name :: seen) rest
      | .array items =>
        if name != "subitem" then none
        else match depth with
          | 0 => none
          | d + 1 =>
            match ofChildren? d items with
            | some children => ofFields? depth (s.withChildren children) (name :: seen) rest
            | none => none
      | _ => none

/-- The node so far with the items of an array in the place of fields. -/
def ofItems? (depth : Nat) (s : Spec) (names : List String) : List Source → Option Spec
  | [] => some s
  | value :: rest =>
    match names, value with
    | [], _ => none
    | name :: names, .string (some text) =>
      if name == "subitem" then none else ofItems? depth (s.setText name text) names rest
    | name :: names, .array items =>
      if name != "subitem" then none
      else match depth with
        | 0 => none
        | d + 1 =>
          match ofChildren? d items with
          | some children => ofItems? depth (s.withChildren children) names rest
          | none => none
    | _, _ => none

def ofChildren? (depth : Nat) : List Source → Option (List Spec)
  | [] => some []
  | s :: rest =>
    match ofSource? depth s, ofChildren? depth rest with
    | some c, some cs => some (c :: cs)
    | _, _ => none
end

def parse (text : String) : Except ExtractError Spec :=
  match (Source.parse? text.toList).bind (ofSource? Json.maxLevels) with
  | some s => .ok s
  | none => .error (.decode (.specJson text))

end Harvest.Spec
