/-!
# Patterns that are of no use

A pattern of either grammar can fail to be read, and can be too large once its repetitions are written out.  A search
can exceed its limits, and can come to take the text of a span whose end stands before its start.
-/
namespace Harvest.Pattern

/-- The grammars of patterns. -/
inductive Engine where
  /-- Without lookaround and backreferences. -/
  | standard
  | extended
  deriving DecidableEq, Repr

/-- The mark before a pattern in a selector. -/
def Engine.mark : Engine → String
  | standard => "regexp:"
  | extended => "regexp2:"

/-- Why a pattern cannot be searched. -/
inductive Fault where
  | malformed
  | oversized
  deriving DecidableEq, Repr

/-- The limits of a search. -/
inductive Limit where
  /-- Of the returns to a branch left open. -/
  | returns
  /-- Of the branches open at once. -/
  | branches
  deriving DecidableEq, Repr

/-- Why a search, or what is made of its matches, comes to nothing. -/
inductive Failure where
  | exhausted (limit : Limit)
  /-- A span that ends before it starts has no text; whoever asks for it panics. -/
  | inverted
  deriving DecidableEq, Repr

end Harvest.Pattern
