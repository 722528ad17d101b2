import Harvest.Pattern.Expr
import Harvest.Pattern.Fault
/-!
# Flags of patterns

Flags say how what follows them is read: whether case counts, what the dot and the ends of lines mean, and whether blanks
and comments stand between what counts.
-/
namespace Harvest.Pattern.Reader

open Harvest.Unicode (CharSet)

/-- The flags that hold at a place of the pattern. -/
structure Mode where
  caseless : Bool := false
  multiline : Bool := false
  dotAll : Bool := false
  swapGreed : Bool := false
  unicode : Bool := true
  crlf : Bool := false
  spaced : Bool := false
  deriving DecidableEq, Repr

def malformed {α : Type} : Except Fault α := .error .malformed

/-- A mode with one flag set or cleared. -/
def Mode.set (m : Mode) (on : Bool) : Char → Option Mode
  | 'i' => some { m with caseless := on }
  | 'm' => some { m with multiline := on }
  | 's' => some { m with dotAll := on }
  | 'U' => some { m with swapGreed := on }
  | 'u' => some { m with unicode := on }
  | 'R' => some { m with crlf := on }
  | 'x' => some { m with spaced := on }
  | _ => none

/-- A text from the next character that counts, where blanks do not, nor comments up to the end of a line. -/
def skipBlank (inComment : Bool) : List Char → List Char
  | [] => []
  | c :: cs =>
    if inComment then skipBlank (c != '\n') cs
    else if Unicode.space.contains c then skipBlank false cs
    else if c == '#' then skipBlank true cs
    else c :: cs

/-- A text from the next character that counts. -/
def skip (m : Mode) (cs : List Char) : List Char := if m.spaced then skipBlank false cs else cs

/-- The character that seems to count next: behind the sign that begins a comment, blanks are passed over but not the
comment.  If there is none, it is the one that is next in any case. -/
def glimpse (m : Mode) (cs : List Char) : Option Char :=
  if m.spaced then
    match cs.dropWhile Unicode.space.contains with
    | '#' :: rest => (rest.dropWhile Unicode.space.contains).head? <|> cs.head?
    | rest => rest.head? <|> cs.head?
  else cs.head?

/-- The characters that count as long as they pass a test, and the text from the next one on. -/
def takeCounting (m : Mode) (p : Char → Bool) : Nat → List Char → List Char × List Char
  | 0, cs => ([], cs)
  | fuel + 1, cs =>
    match cs with
    | [] => ([], [])
    | c :: rest =>
      if p c then
        let (taken, rest) := takeCounting m p fuel (skip m rest)
        (c :: taken, rest)
      else ([], cs)

/-- The characters that count up to a closing brace, and the text behind it. -/
def inBraces (m : Mode) (cs : List Char) : Except Fault (List Char × List Char) :=
  match takeCounting m (· != '\x7d') cs.length (skip m cs) with
  | (taken, _ :: rest) => .ok (taken, rest)
  | (_, []) => malformed

/-! ## Sets under flags -/

/-- A set with its case variants where case does not count. -/
def fold (m : Mode) (s : CharSet) : CharSet :=
  if m.caseless then
    let t := Unicode.foldCase s
    if m.unicode then t else CharSet.union s (CharSet.inter t (.ofRanges [(0, 0x7F)]))
  else s

/-- A set, turned round if it is to be.  A set that is not to know more than ASCII cannot be turned round. -/
def negateIf (m : Mode) (negated : Bool) (s : CharSet) : Except Fault CharSet :=
  if !negated then .ok s else if m.unicode then .ok s.complement else malformed

def literal (m : Mode) (c : Char) : Expr :=
  if !m.caseless || (!m.unicode && 0x7F < c.toNat) then .literal [c]
  else if m.unicode then .ofSet (Unicode.foldCaseChar c)
  else .ofSet (fold m (.singleton c))

/-- The pattern of the dot. -/
def dot (m : Mode) : Except Fault Expr :=
  if !m.unicode then malformed
  else if m.dotAll then .ok (.set .full)
  else .ok (.set (CharSet.complement (.ofRanges (if m.crlf then [(10, 10), (13, 13)] else [(10, 10)]))))

end Harvest.Pattern.Reader
