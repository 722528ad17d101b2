import Harvest.Pattern.Mode
import Harvest.Text.Find
import Harvest.Text.Quoted
/-!
# Escapes of patterns

A backslash introduces a character by its code, a class of characters, a condition on the position, or a character that
would otherwise have a meaning of its own.
-/
namespace Harvest.Pattern.Reader

open Harvest.Unicode (CharSet)

/-- What a backslash can introduce. -/
inductive Escape where
  | literal (c : Char)
  | set (s : CharSet)
  | assertion (a : Assertion)

/-! ## Codes -/

def hexValue? (ds : List Char) : Option Nat :=
  ds.foldl (fun n d => do return (← n) * 16 + (← Text.Quoted.digit? 16 d)) (some 0)

/-- Exactly `n` hexadecimal digits. -/
def hexFixed (m : Mode) (n : Nat) (cs : List Char) : Except Fault (List Char × List Char) :=
  let (ds, rest) := takeCounting m (fun c => (Text.Quoted.digit? 16 c).isSome) n cs
  if ds.length == n then .ok (ds, rest) else malformed

/-- The character behind `\x`, `\u` or `\U`.  Where a pattern is not to know more than ASCII, two digits stand for a
byte, and there is no text of which a byte above 7F is a character. -/
def hexCode (m : Mode) (letter : Char) (cs : List Char) : Except Fault (Char × List Char) := do
  let (ds, rest, isByte) ← match skip m cs with
    | '\x7b' :: rest => do
      let (ds, rest) ← inBraces m rest
      pure (ds, rest, false)
    | cs => do
      let (ds, rest) ← hexFixed m (if letter == 'x' then 2 else if letter == 'u' then 4 else 8) cs
      pure (ds, rest, letter == 'x')
  match hexValue? ds with
  | some n =>
    if ds.isEmpty || !Text.Quoted.isScalar n || (isByte && !m.unicode && 0x7F < n) then malformed
    else return (Char.ofNat n, rest)
  | none => malformed

/-! ## Classes -/

/-- The digits, white space and word characters of a mode. -/
def perlClass (m : Mode) (letter : Char) : CharSet :=
  if letter == 'd' then if m.unicode then Unicode.digits else .ofRanges [(0x30, 0x39)]
  else if letter == 's' then if m.unicode then Unicode.space else .ofRanges [(9, 13), (0x20, 0x20)]
  else if m.unicode then Unicode.word else .ofRanges [(0x30, 0x39), (0x41, 0x5A), (0x5F, 0x5F), (0x61, 0x7A)]

/-- The letters behind `\d`, `\s`, `\w` and their negations. -/
def isPerlLetter (c : Char) : Bool := c == 'd' || c == 's' || c == 'w' || c == 'D' || c == 'S' || c == 'W'

/-- A class by its letter; an upper-case letter turns it round. -/
def perl (m : Mode) (letter : Char) : Except Fault CharSet :=
  negateIf m letter.isUpper (perlClass m letter.toLower)

/-- The class of what stands in the braces of `\p`, and whether it is turned round there. -/
def namedClass? (name : List Char) : Option (CharSet × Bool) :=
  let parts (sep : List Char) : Option (String × String) :=
    (Text.cut? sep name).map fun p => (String.ofList p.1, String.ofList p.2)
  match parts ['!', '='] with
  | some (a, b) => (Unicode.classOf? a b).map fun s => (s, true)
  | none =>
    match parts [':'] <|> parts ['='] with
    | some (a, b) => (Unicode.classOf? a b).map fun s => (s, false)
    | none => (Unicode.class? (String.ofList name)).map fun s => (s, false)

/-- The class behind `\p` or `\P`. -/
def unicodeClass (m : Mode) (negated : Bool) (cs : List Char) : Except Fault (CharSet × List Char) := do
  if !m.unicode then malformed
  else
    let (name, rest) ← match skip m cs with
      | '\x7b' :: rest => inBraces m rest
      | c :: rest => if c == '\\' then malformed else .ok ([c], rest)
      | [] => malformed
    match namedClass? name with
    | some (s, turned) => return (← negateIf m (negated != turned) (fold m s), rest)
    | none => malformed

/-! ## Letters and signs -/

/-- The characters that a backslash may stand before without effect. -/
def isEscapable (c : Char) : Bool := c.toNat < 0x80 && !c.isAlphanum && c != '<' && c != '>'

/-- The character of a one-letter escape. -/
def letterEscape? : Char → Option Char
  | 'a' => some '\x07'
  | 'f' => some '\x0c'
  | 't' => some '\t'
  | 'n' => some '\n'
  | 'r' => some '\r'
  | 'v' => some '\x0b'
  | _ => none

/-- The characters in the name of a word boundary. -/
def isBoundaryChar (c : Char) : Bool := c.isAlpha || c == '-'

/-- A word boundary, with a name in braces behind it or without. -/
def wordBoundary (m : Mode) (cs : List Char) : Except Fault (Assertion × List Char) :=
  let ascii := !m.unicode
  match cs with
  | '\x7b' :: rest =>
    match skip m rest with
    | [] => malformed
    | c :: more =>
      if !isBoundaryChar c then .ok (.wordEdge ascii, cs)
      else match takeCounting m isBoundaryChar cs.length (c :: more) with
        | (name, '\x7d' :: after) =>
          match String.ofList name with
          | "start" => .ok (.wordStart ascii, after)
          | "end" => .ok (.wordEnd ascii, after)
          | "start-half" => .ok (.noWordBefore ascii, after)
          | "end-half" => .ok (.noWordAfter ascii, after)
          | _ => malformed
        | _ => malformed
  | _ => .ok (.wordEdge ascii, cs)

/-- What the text behind a backslash introduces. -/
def escape (m : Mode) (cs : List Char) : Except Fault (Escape × List Char) := do
  match cs with
  | [] => malformed
  | c :: rest =>
    let ascii := !m.unicode
    if c == 'x' || c == 'u' || c == 'U' then
      let (l, rest) ← hexCode m c rest
      return (.literal l, rest)
    else if c == 'p' || c == 'P' then
      let (s, rest) ← unicodeClass m (c == 'P') rest
      return (.set s, rest)
    else if isPerlLetter c then return (.set (← perl m c), rest)
    else if isEscapable c then return (.literal c, rest)
    else match letterEscape? c with
      | some l => return (.literal l, rest)
      | none =>
        match c with
        | 'A' => return (.assertion .textStart, rest)
        | 'z' => return (.assertion .textEnd, rest)
        | 'b' => do
          let (a, rest) ← wordBoundary m rest
          return (.assertion a, rest)
        | 'B' => return (.assertion (.notWordEdge ascii), rest)
        | '<' => return (.assertion (.wordStart ascii), rest)
        | '>' => return (.assertion (.wordEnd ascii), rest)
        | _ => malformed

end Harvest.Pattern.Reader
