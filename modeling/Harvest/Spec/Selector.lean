import Harvest.Extract.Match
import Harvest.Text.Find
/-!
# Selectors

A selector is empty, a pattern behind its mark, or a path in the document's own terms.  `ofText` reads one and `toText`
writes it back as it was.
-/
namespace Harvest

/-- How a node finds what it works on. -/
inductive Selector where
  /-- What the node's parent works on. -/
  | current
  | pattern (engine : Pattern.Engine) (pattern : String)
  /-- A selector chain or a JSON path. -/
  | native (raw : String)
  deriving DecidableEq, Repr, Inhabited

namespace Selector

def behind? (mark text : String) : Option String := (Text.after? mark.toList text.toList).map String.ofList

def ofText (text : String) : Selector :=
  match behind? (Pattern.Engine.mark .extended) text with
  | some p => .pattern .extended p
  | none =>
    match behind? (Pattern.Engine.mark .standard) text with
    | some p => .pattern .standard p
    | none => if text.isEmpty then .current else .native text

def toText : Selector → String
  | current => ""
  | pattern engine p => Extract.patternKey engine p
  | native raw => raw

def isCurrent : Selector → Bool
  | current => true
  | _ => false

end Selector

end Harvest
