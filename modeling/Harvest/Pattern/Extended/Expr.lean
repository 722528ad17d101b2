import Harvest.Pattern.Escape
/-!
# Extended patterns

Patterns that may also look around, refer back to a group, keep the first way to match a part, or branch on a
condition.  A part is hard if it needs one of these; a part that is not is a plain pattern, and `XExpr.render` is its
text.
-/
namespace Harvest.Pattern.Extended

open Harvest.Unicode (CharSet)

/-- A pattern of the extended kind. -/
inductive XExpr where
  | empty
  /-- Any character, a line feed only if `newline`. -/
  | any (newline : Bool)
  | literal (c : Char) (caseless : Bool)
  /-- A class of characters by its text in a plain pattern. -/
  | named (text : List Char) (caseless : Bool)
  | assertion (a : Assertion)
  | group (index : Nat) (e : XExpr)
  | cat (es : List XExpr)
  | alt (es : List XExpr)
  | rep (min : Nat) (max : Option Nat) (greedy : Bool) (e : XExpr)
  /-- A condition on what stands behind the position or before it. -/
  | look (ahead negated : Bool) (e : XExpr)
  /-- The text of a group's match once more. -/
  | backref (group : Nat)
  /-- Has the group matched? -/
  | matched (group : Nat)
  /-- The first way to match the part and no other. -/
  | atomic (e : XExpr)
  /-- The match begins here. -/
  | keepOut
  /-- The position at which the search began. -/
  | searchStart
  | cond (test yes no : XExpr)
  deriving Inhabited

namespace XExpr

mutual
/-- The least number of characters that a match of the pattern has. -/
def minSize : XExpr → Nat
  | .empty | .assertion _ | .look _ _ _ | .backref _ | .matched _ | .keepOut | .searchStart => 0
  | .any _ | .literal _ _ | .named _ _ => 1
  | .group _ e => e.minSize
  | .cat es => minSizeAll es
  | .alt es => minSizeAny es
  | .rep min _ _ e => e.minSize * min
  | .atomic e => e.minSize
  | .cond test yes no => test.minSize + min yes.minSize no.minSize

def minSizeAll : List XExpr → Nat
  | [] => 0
  | e :: es => e.minSize + minSizeAll es

def minSizeAny : List XExpr → Nat
  | [] => 0
  | [e] => e.minSize
  | e :: es => min e.minSize (minSizeAny es)
end

mutual
/-- Do all matches of the pattern have the same number of characters? -/
def constSize : XExpr → Bool
  | .empty | .assertion _ | .look _ _ _ | .matched _ | .keepOut | .searchStart => true
  | .any _ | .literal _ _ | .named _ _ => true
  | .backref _ => false
  | .group _ e => e.constSize
  | .cat es => constSizeAll es
  | .alt es => constSizeAny es
  | .rep min max _ e => e.constSize && max == some min
  | .atomic e => e.constSize
  | .cond test yes no =>
    test.constSize && yes.constSize && no.constSize && test.minSize + yes.minSize == no.minSize

def constSizeAll : List XExpr → Bool
  | [] => true
  | e :: es => e.constSize && constSizeAll es

def constSizeAny : List XExpr → Bool
  | [] => true
  | [e] => e.constSize
  | e :: es => e.constSize && constSizeAny es && e.minSize == minSizeAny es
end

def isWordAssertion : Assertion → Bool
  | .wordEdge _ | .notWordEdge _ | .wordStart _ | .wordEnd _ => true
  | _ => false

mutual
/-- Does the pattern need more than plain matching? -/
def hard : XExpr → Bool
  | .empty | .any _ | .literal _ _ | .named _ _ => false
  | .assertion a => isWordAssertion a
  | .look _ _ _ | .backref _ | .matched _ | .atomic _ | .keepOut | .searchStart | .cond _ _ _ => true
  | .group _ e => e.hard
  | .cat es => hardAny es
  | .alt es => hardAny es
  | .rep _ _ _ e => e.hard

def hardAny : List XExpr → Bool
  | [] => false
  | e :: es => e.hard || hardAny es
end

mutual
/-- The groups in a pattern, in the order in which they open. -/
def groups : XExpr → List Nat
  | .group i e => i :: e.groups
  | .cat es => groupsAll es
  | .alt es => groupsAll es
  | .rep _ _ _ e => e.groups
  | .look _ _ e => e.groups
  | .atomic e => e.groups
  | .cond test yes no => test.groups ++ yes.groups ++ no.groups
  | _ => []

def groupsAll : List XExpr → List Nat
  | [] => []
  | e :: es => e.groups ++ groupsAll es
end

/-! ## The text of a plain pattern -/

/-- A text in a group that notes nothing, with some flags. -/
def wrapped (flags : String) (text : List Char) : List Char :=
  '(' :: '?' :: flags.toList ++ ':' :: text ++ [')']

/-- A text in a group that notes nothing, if it is to be in one. -/
def wrappedIf (needed : Bool) (text : List Char) : List Char := if needed then wrapped "" text else text

/-- The characters that a plain pattern takes for themselves behind a backslash only. -/
def isSign (c : Char) : Bool := "\\.+*?()|[]\x7b\x7d^$#".toList.contains c

def quoted (c : Char) : List Char := if isSign c then ['\\', c] else [c]

/-- The text of an assertion that is not hard. -/
def assertionText : Assertion → List Char
  | .textStart => ['^']
  | .textEnd => ['$']
  | .lineStart crlf => wrapped (if crlf then "Rm" else "m") ['^']
  | .lineEnd crlf => wrapped (if crlf then "Rm" else "m") ['$']
  | _ => []

def boundsText (min : Nat) (max : Option Nat) : String :=
  match min, max with
  | 0, some 1 => "?"
  | 0, none => "*"
  | 1, none => "+"
  | n, none => "\x7b" ++ toString n ++ ",\x7d"
  | n, some m => if n == m then "\x7b" ++ toString n ++ "\x7d" else "\x7b" ++ toString n ++ "," ++ toString m ++ "\x7d"

mutual
/-- The text of a pattern that is not hard.  A choice stands bare at tightness 0, a sequence up to 1, a repetition up to
2. -/
def render (tightness : Nat) : XExpr → List Char
  | .any newline => if newline then wrapped "s" ['.'] else ['.']
  | .literal c caseless => if caseless then wrapped "i" (quoted c) else quoted c
  | .named text caseless => if caseless then wrapped "i" text else text
  | .assertion a => assertionText a
  | .group _ e => '(' :: render 0 e ++ [')']
  | .cat es => wrappedIf (1 < tightness) (renderAll es)
  | .alt es => wrappedIf (0 < tightness) (renderAny es)
  | .rep min max greedy e =>
    wrappedIf (2 < tightness) (render 3 e ++ (boundsText min max).toList ++ if greedy then [] else ['?'])
  | _ => []

def renderAll : List XExpr → List Char
  | [] => []
  | e :: es => render 2 e ++ renderAll es

def renderAny : List XExpr → List Char
  | [] => []
  | [e] => render 1 e
  | e :: es => render 1 e ++ '|' :: renderAny es
end

mutual
/-- The text that a pattern matches to the letter, if it is one. -/
def literal? : XExpr → Option (List Char)
  | .literal c false => some [c]
  | .cat es => literals? es
  | _ => none

def literals? : List XExpr → Option (List Char)
  | [] => some []
  | e :: es => do return (← e.literal?) ++ (← literals? es)
end

end XExpr

end Harvest.Pattern.Extended
