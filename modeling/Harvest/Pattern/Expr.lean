import Harvest.Unicode.Property
/-!
# Patterns

A pattern is a tree of literal texts, character sets, assertions, groups, sequences, alternatives and repetitions.
`Expr.seq`, `Expr.choice`, `Expr.repeated` and `Expr.ofSet` build trees in a reduced form: neighbouring literals are one,
sequences hold no sequences and alternatives no alternatives, characters to choose from are one set, alternatives share
what they all begin with, and what can match nothing but the empty text is repeated at most once.
-/
namespace Harvest.Pattern

open Harvest.Unicode (CharSet)

/-- A condition on a position in a text. -/
inductive Assertion where
  | textStart
  | textEnd
  /-- Behind a line's end; with `crlf`, a carriage return ends a line too. -/
  | lineStart (crlf : Bool)
  | lineEnd (crlf : Bool)
  | wordEdge (ascii : Bool)
  | notWordEdge (ascii : Bool)
  | wordStart (ascii : Bool)
  | wordEnd (ascii : Bool)
  /-- No word character stands before. -/
  | noWordBefore (ascii : Bool)
  /-- No word character stands behind. -/
  | noWordAfter (ascii : Bool)
  deriving DecidableEq, Repr

/-- The characters of words within ASCII. -/
def isAsciiWord (c : Char) : Bool := c.isAlphanum || c == '_'

def isWord (ascii : Bool) (c : Char) : Bool := if ascii then isAsciiWord c else Unicode.word.contains c

/-- Does a test hold of the character before a position? -/
def before (text : Array Char) (i : Nat) (p : Char → Bool) : Bool :=
  if i = 0 then false else (text[i - 1]?).any p

/-- Does a test hold of the character at a position? -/
def atPos (text : Array Char) (i : Nat) (p : Char → Bool) : Bool := (text[i]?).any p

/-- Does the condition hold at a position? -/
def Assertion.holds (text : Array Char) (i : Nat) : Assertion → Bool
  | textStart => i == 0
  | textEnd => i == text.size
  | lineStart crlf =>
    i == 0 || before text i (· == '\n')
      || (crlf && before text i (· == '\r') && !atPos text i (· == '\n'))
  | lineEnd crlf =>
    i == text.size || (atPos text i (· == '\n') && !(crlf && before text i (· == '\r')))
      || (crlf && atPos text i (· == '\r'))
  | wordEdge ascii => before text i (isWord ascii) != atPos text i (isWord ascii)
  | notWordEdge ascii => before text i (isWord ascii) == atPos text i (isWord ascii)
  | wordStart ascii => !before text i (isWord ascii) && atPos text i (isWord ascii)
  | wordEnd ascii => before text i (isWord ascii) && !atPos text i (isWord ascii)
  | noWordBefore ascii => !before text i (isWord ascii)
  | noWordAfter ascii => !atPos text i (isWord ascii)

/-- A pattern. -/
inductive Expr where
  | empty
  /-- The characters one after the other; there is at least one. -/
  | literal (cs : List Char)
  | set (s : CharSet)
  | assertion (a : Assertion)
  | group (index : Nat) (e : Expr)
  | cat (es : List Expr)
  | alt (es : List Expr)
  /-- At least `min` times, at most `max` times if there is a bound, as often as possible or as rarely. -/
  | rep (min : Nat) (max : Option Nat) (greedy : Bool) (e : Expr)
  deriving Inhabited

namespace Expr

/-! ## Lengths -/

mutual
/-- The least number of characters that a match of the pattern has; none if nothing can match. -/
def minLength : Expr → Option Nat
  | .empty | .assertion _ => some 0
  | .literal cs => some cs.length
  | .set s => if s.ranges.isEmpty then none else some 1
  | .group _ e => e.minLength
  | .cat es => minLengthAll es
  | .alt es => minLengthAny es
  | .rep min _ _ e => e.minLength.map (min * ·)

def minLengthAll : List Expr → Option Nat
  | [] => some 0
  | e :: es => do return (← e.minLength) + (← minLengthAll es)

def minLengthAny : List Expr → Option Nat
  | [] => none
  | [e] => e.minLength
  | e :: es => do return min (← e.minLength) (← minLengthAny es)
end

/-- Is every match of the pattern known to have a character? -/
def isSubstantial (e : Expr) : Bool := e.minLength.any (0 < ·)

mutual
/-- Can the pattern match nothing but the empty text? -/
def isEmptyOnly : Expr → Bool
  | .empty | .assertion _ => true
  | .literal _ | .set _ => false
  | .group _ e => e.isEmptyOnly
  | .cat es => isEmptyOnlyAll es
  | .alt es => isEmptyOnlyAll es
  | .rep _ max _ e => max.isSome && (max == some 0 || e.isEmptyOnly)

def isEmptyOnlyAll : List Expr → Bool
  | [] => true
  | e :: es => e.isEmptyOnly && isEmptyOnlyAll es
end

/-! ## Groups -/

mutual
/-- The greatest number of a group in the pattern. -/
def lastGroup : Expr → Nat
  | .empty | .literal _ | .set _ | .assertion _ => 0
  | .group i e => max i e.lastGroup
  | .cat es => lastGroupAll es
  | .alt es => lastGroupAll es
  | .rep _ _ _ e => e.lastGroup

def lastGroupAll : List Expr → Nat
  | [] => 0
  | e :: es => max e.lastGroup (lastGroupAll es)
end

/-! ## Comparing -/

mutual
def same : Expr → Expr → Bool
  | .empty, .empty => true
  | .literal a, .literal b => a == b
  | .set s, .set t => s == t
  | .assertion a, .assertion b => a == b
  | .group i e, .group j f => i == j && e.same f
  | .cat es, .cat fs => sameAll es fs
  | .alt es, .alt fs => sameAll es fs
  | .rep m n g e, .rep m' n' g' f => m == m' && n == n' && g == g' && e.same f
  | _, _ => false

def sameAll : List Expr → List Expr → Bool
  | [], [] => true
  | e :: es, f :: fs => e.same f && sameAll es fs
  | _, _ => false
end

/-- How many patterns at the front two sequences have in common. -/
def common : List Expr → List Expr → Nat
  | e :: es, f :: fs => if e.same f then common es fs + 1 else 0
  | _, _ => 0

/-! ## Building patterns in reduced form -/

/-- The pattern of a set: a set of one character is a literal. -/
def ofSet (s : CharSet) : Expr :=
  let s := s.scalars
  match s.ranges.toList with
  | [(a, b)] => if a == b then .literal [Char.ofNat a] else .set s
  | _ => .set s

/-- A pattern in front of the parts of a sequence. -/
def cons (e : Expr) (es : List Expr) : List Expr :=
  match e, es with
  | .empty, es => es
  | .literal a, .literal b :: es => .literal (a ++ b) :: es
  | .cat fs, es => fs.foldr (fun f es => match f, es with
      | .literal a, .literal b :: es => .literal (a ++ b) :: es
      | f, es => f :: es) es
  | e, es => e :: es

/-- The sequence of some patterns. -/
def seq (es : List Expr) : Expr :=
  match es.foldr cons [] with
  | [] => .empty
  | [e] => e
  | es => .cat es

/-- The characters of patterns that are one character each. -/
def singles? : List Expr → Option (List Char)
  | [] => some []
  | .literal [c] :: es => (singles? es).map (c :: ·)
  | _ => none

def sets? : List Expr → Option (List CharSet)
  | [] => some []
  | .set s :: es => (sets? es).map (s :: ·)
  | _ => none

/-- The parts of each pattern, if all of them are sequences. -/
def sequences? : List Expr → Option (List (List Expr))
  | [] => some []
  | .cat es :: rest => (sequences? rest).map (es :: ·)
  | _ => none

/-- The alternatives with those in the place of which others stand. -/
def flatten (es : List Expr) : List Expr :=
  es.flatMap fun e => match e with
    | .alt fs => fs
    | e => [e]

/-- The choice between some patterns, up to `fuel` times with what all of them begin with put in front. -/
def choiceFrom : Nat → List Expr → Expr
  | 0, es => .alt es
  | fuel + 1, es =>
    match flatten es with
    | [] => .set .empty
    | [e] => e
    | es =>
      match singles? es, sets? es, sequences? es with
      | some cs, _, _ => ofSet (CharSet.ofRanges (cs.map fun c => (c.toNat, c.toNat)))
      | _, some ss, _ => ofSet (CharSet.ofRanges (ss.flatMap fun s => s.ranges.toList))
      | _, _, some (first :: rest) =>
        match rest.foldl (fun n es => min n (common first es)) first.length with
        | 0 => .alt es
        | n => seq (first.take n ++ [choiceFrom fuel ((first :: rest).map fun es => seq (es.drop n))])
      | _, _, _ => .alt es

mutual
def count : Expr → Nat
  | .empty | .literal _ | .set _ | .assertion _ => 1
  | .group _ e => e.count + 1
  | .cat es => countAll es + 1
  | .alt es => countAll es + 1
  | .rep _ _ _ e => e.count + 1

def countAll : List Expr → Nat
  | [] => 0
  | e :: es => e.count + countAll es
end

/-- The choice between some patterns, the first of them to be tried first. -/
def choice (es : List Expr) : Expr := choiceFrom (countAll es + 1) es

def repeated (least : Nat) (most : Option Nat) (greedy : Bool) (e : Expr) : Expr :=
  let (least, most) :=
    if e.isEmptyOnly then (min least 1, some ((most.map (min 1)).getD 1)) else (least, most)
  if most == some 0 then .empty
  else if least == 1 && most == some 1 then e
  else .rep least most greedy e

end Expr

end Harvest.Pattern
