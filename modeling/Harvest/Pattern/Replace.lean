import Harvest.Pattern.Basic
import Harvest.Text.Numeral
/-!
# Replacing matches

A search yields the next match from a position on; a match is replaced by a template that can name its groups.
`replaceFrom` replaces matches from a place on, up to a number of them, and after an empty match goes on one character
further.  `replaceAll` replaces all matches but the empty ones right behind another match.  Both break down at a match
that starts in front of the end of the one before.
-/
namespace Harvest.Pattern

/-! ## Templates -/

/-- A part of a replacement template. -/
inductive Part where
  | literal (c : Char)
  /-- A group by its number or its name. -/
  | group (id : String)
  deriving DecidableEq, Repr

/-- The parts of a template: `$$` stands for a dollar sign, `$id` and `$` with the id in braces for a group. -/
def parts : Nat → List Char → List Part
  | 0, _ => []
  | _ + 1, [] => []
  | fuel + 1, c :: cs =>
    if c != '$' then .literal c :: parts fuel cs
    else match cs with
      | '$' :: rest => .literal '$' :: parts fuel rest
      | _ =>
        match Extended.Reader.name? ['\x7b'] ['\x7d'] cs <|> Extended.Reader.name? [] [] cs with
        | some (id, rest) => .group id :: parts fuel rest
        | none => .literal '$' :: parts fuel cs

def template (cs : List Char) : List Part := parts cs.length cs

/-- The span of the group that an id means: the group of that name, or the group of that number where there is none of
that name or it took no part in the match. -/
def spanOf? (names : List (String × Nat)) (groups : Captures) (id : String) : Option (Nat × Nat) :=
  let span (g : Nat) : Option (Nat × Nat) := (groups[g]?).join
  (List.lookup id names).bind span <|> (Text.Numeral.nat64? id.toList).bind span

/-- The text of a template at a match; a group that there is not stands for nothing. -/
def expand (names : List (String × Nat)) (text : Array Char) (groups : Captures) (ps : List Part) : List Char :=
  ps.flatMap fun p => match p with
    | .literal c => [c]
    | .group id =>
      match spanOf? names groups id with
      | some span => spanText text span
      | none => []

/-! ## Loops -/

/-- A search for the next match from a position on: the span of the match and what takes its place. -/
abbrev Finder := Nat → Except Failure (Option ((Nat × Nat) × List Char))

/-- What is left from the end of the last match on. -/
def tail (text : Array Char) (copied : Nat) : List Char := spanText text (copied, text.size)

/-- What lies between the end of the last match and the start of the next one. -/
def gap (text : Array Char) (copied start : Nat) : Except Failure (List Char) :=
  if start < copied then .error .inverted else .ok (spanText text (copied, start))

/-- Replaces up to `limit` matches, the next one from `pos` on; the text is taken over up to `copied`. -/
def replaceLoop (text : Array Char) (find : Finder) :
    Nat → Option Nat → Nat → Nat → Except Failure (List Char)
  | 0, _, copied, _ => .ok (tail text copied)
  | fuel + 1, limit, copied, pos => do
    if limit == some 0 then return tail text copied
    else match ← find pos with
      | none => return tail text copied
      | some ((a, b), put) =>
        let lead := (← gap text copied a) ++ put
        if a != b then return lead ++ (← replaceLoop text find fuel (limit.map (· - 1)) b b)
        else if b < text.size then
          return lead ++ (← replaceLoop text find fuel (limit.map (· - 1)) b (b + 1))
        else return lead ++ tail text b

/-- Replaces up to `limit` matches that start at or behind `start`. -/
def replaceFrom (text : Array Char) (find : Finder) (start : Nat) (limit : Option Nat) :
    Except Failure (List Char) :=
  replaceLoop text find (text.size + 2) limit 0 start

/-- Replaces all matches from `pos` on; `last` is where the last match ended.  The search is told whether it starts
behind that place, as it does after an empty match. -/
def replaceAllLoop (text : Array Char) (find : Bool → Finder) :
    Nat → Nat → Nat → Option Nat → Except Failure (List Char)
  | 0, copied, _, _ => .ok (tail text copied)
  | fuel + 1, copied, pos, last => do
    if pos > text.size then return tail text copied
    else match ← find (last.any (· < pos)) pos with
      | none => return tail text copied
      | some ((a, b), put) =>
        let next := if a == b then b + 1 else b
        if a == b && last == some b then replaceAllLoop text find fuel copied next last
        else
          let lead := (← gap text copied a) ++ put
          return lead ++ (← replaceAllLoop text find fuel b next (some b))

def replaceAll (text : Array Char) (find : Bool → Finder) : Except Failure (List Char) :=
  replaceAllLoop text find (2 * text.size + 2) 0 0 none

/-! ## Searches -/

/-- The groups of the next match from a position on. -/
abbrev Searcher := Nat → Except Failure (Option Captures)

/-- The finder of a search: the span of the whole match, and the template expanded with the groups of this match. -/
def finderOf (names : List (String × Nat)) (search : Searcher) (text : Array Char) (template : List Part) : Finder :=
  fun pos => do
    match ← search pos with
    | none => return none
    | some groups => return (groups[0]?).join.map fun span => (span, expand names text groups template)

namespace Regex

def finder (r : Regex) (text : Array Char) (template : List Part) : Finder :=
  finderOf r.names (r.search text) text template

/-- The search for all matches.  Where it is one character behind an empty match, no match may go on from that one; but
this rule is not kept for a template that can name groups, with a dollar sign in it. -/
def searchAll (r : Regex) (text : Array Char) (template : List Char) (stepped : Bool) : Searcher := fun pos =>
  r.searchFrom text pos (if stepped && !template.contains '$' then none else some pos)

def finderAll (r : Regex) (text : Array Char) (template : List Char) (stepped : Bool) : Finder :=
  finderOf r.names (r.searchAll text template stepped) text (Pattern.template template)

end Regex

end Harvest.Pattern
