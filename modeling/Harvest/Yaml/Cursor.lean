import Harvest.Text.Find
/-!
# Places in a YAML text

A cursor is what is ahead in a text and where that is: how many characters and lines are behind it, and how many
characters of its line.
-/
namespace Harvest.Yaml

/-- May a text hold the character?  Control characters are left out, but for tabs and line ends. -/
def isPrintable (c : Char) : Bool :=
  let n := c.toNat
  n == 0x09 || n == 0x0A || n == 0x0D || (0x20 ≤ n && n ≤ 0x7E) || n == 0x85 || (0xA0 ≤ n && n ≤ 0xFFFD)
    || 0x10000 ≤ n

def isBreak (c : Char) : Bool :=
  c == '\n' || c == '\r' || c.toNat == 0x85 || c.toNat == 0x2028 || c.toNat == 0x2029

def isBlank (c : Char) : Bool := c == ' ' || c == '\t'

/-- The characters of anchors and of handles of tags. -/
def isWordChar (c : Char) : Bool := c.isAlphanum || c == '_' || c == '-'

/-- Is the next character a blank or a line end, or is there none? -/
def atGap : List Char → Bool
  | [] => true
  | c :: _ => isBlank c || isBreak c

def atLineEnd : List Char → Bool
  | [] => true
  | c :: _ => isBreak c

/-- A place in a text. -/
structure Cursor where
  ahead : List Char
  index : Nat
  line : Nat
  column : Nat
  deriving DecidableEq, Repr

namespace Cursor

def start (cs : List Char) : Cursor := ⟨cs, 0, 0, 0⟩

/-- The place `n` characters further on the same line. -/
def advance (c : Cursor) (n : Nat) : Cursor := ⟨c.ahead.drop n, c.index + n, c.line, c.column + n⟩

def skip (c : Cursor) : Cursor := c.advance 1

/-- The characters ahead of a class, which must not have line ends in it, and the place behind them. -/
def span (c : Cursor) (p : Char → Bool) : List Char × Cursor :=
  let cs := c.ahead.takeWhile p
  (cs, c.advance cs.length)

/-- The place behind the characters of a class. -/
def skipWhile (c : Cursor) (p : Char → Bool) : Cursor := (c.span p).2

/-- The line end ahead as it counts in a text, if there is one, and the place behind it. -/
def breakLine (c : Cursor) : List Char × Cursor :=
  match c.ahead with
  | '\r' :: '\n' :: rest => (['\n'], ⟨rest, c.index + 2, c.line + 1, 0⟩)
  | x :: rest =>
    if isBreak x then
      ([if x.toNat == 0x2028 || x.toNat == 0x2029 then x else '\n'], ⟨rest, c.index + 1, c.line + 1, 0⟩)
    else ([], c)
  | [] => ([], c)

/-- Is this a line that parts documents, with one of the two marks? -/
def isMark (c : Cursor) (mark : Char) : Bool :=
  c.column == 0 && (match c.ahead with
    | x :: y :: z :: rest => x == mark && y == mark && z == mark && atGap rest
    | _ => false)

def partsDocuments (c : Cursor) : Bool := c.isMark '-' || c.isMark '.'

/-- The place behind the blanks and the comment that may end a line; there must be nothing else. -/
def endLine? (c : Cursor) : Option Cursor :=
  let c := c.skipWhile isBlank
  let c := if c.ahead.head? == some '#' then c.skipWhile (!isBreak ·) else c
  if atLineEnd c.ahead then some c.breakLine.2 else none

end Cursor

end Harvest.Yaml
