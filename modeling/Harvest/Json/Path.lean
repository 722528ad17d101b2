import Harvest.Json.Basic
import Harvest.Text.Find
import Harvest.Error
/-!
# Dotted paths into JSON

`data.items[0].title`, `this[2]`: segments between dots, each a key with indices behind it.  The key `this` and an
empty key before an index stand where they are; a path's steps are walked from the outside in.
-/
namespace Harvest.Json

/-- One step of a path. -/
inductive Step where
  | key (k : String)
  | index (i : Nat)
  deriving DecidableEq, Repr

/-- A step as it is written in a message. -/
def Step.render : Step → String
  | key k => "." ++ k
  | index i => "[" ++ Text.Numeral.ofNat i ++ "]"

/-- A path: its steps from the outside in. -/
abbrev Path := List Step

namespace Path

def indices : Nat → List Char → Except PathFault (List Step)
  | 0, _ => .ok []
  | _ + 1, [] => .ok []
  | fuel + 1, c :: body =>
    if c != '[' then .error .textAfterIndex
    else match Text.cut? [']'] body with
      | none => .error .unclosedBracket
      | some (inner, rest) =>
        if inner.isEmpty || !inner.all Text.Numeral.isDigit then .error .notAnIndex
        else match Text.Numeral.nat64? inner with
          | none => .error .indexTooLarge
          | some i => do return .index i :: (← indices fuel rest)

/-- The steps of one segment between dots. -/
def segment (cs : List Char) : Except PathFault (List Step) :=
  let key := cs.takeWhile (· != '[')
  let rest := cs.dropWhile (· != '[')
  if key.isEmpty && rest.isEmpty then .error .emptySegment
  else do
    let steps ← indices rest.length rest
    return if key.isEmpty || String.ofList key == "this" then steps else .key (String.ofList key) :: steps

def segments : List (List Char) → Except PathFault (List Step)
  | [] => .ok []
  | s :: rest => do
    let steps ← segment s
    return steps ++ (← segments rest)

def parse (raw : String) : Except ExtractError Path :=
  match segments (Text.splitAt '.' raw.toList) with
  | .ok steps => .ok steps
  | .error fault => .error (.pathSyntax raw fault)

def step? : Step → Json → Option Json
  | .key k, .object fields => Fields.find? k fields
  | .index i, .array items => items[i]?
  | _, _ => none

/-- Walks the steps from a value; `walked` are those behind. -/
def walk (walked : List Step) : List Step → Json → Except ExtractError Json
  | [], j => .ok j
  | s :: rest, j =>
    match step? s j with
    | some next => walk (walked ++ [s]) rest next
    | none => .error (.nodeNotFound (.path ((walked ++ [s]).map Step.render)))

def resolve (path : Path) (root : Json) : Except ExtractError Json := walk [] path root

end Path

end Harvest.Json
