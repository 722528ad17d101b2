import Harvest.Text.Quoted
import Harvest.Yaml.Cursor
/-!
# Scalars of YAML texts

Plain scalars, scalars in quotes, and blocks of lines.  Between words a line end counts as a space, several of them as
all but the first; blocks keep their line ends or fold them the same way.
-/
namespace Harvest.Yaml

/-! ## Between words -/

/-- What has been passed between two words: blanks on one line, or line ends, of which the first counts by itself. -/
structure Gap where
  blanks : List Char := []
  breaks : Option (List Char × List Char) := none
  deriving DecidableEq, Repr

namespace Gap

def text (g : Gap) : List Char :=
  match g.breaks with
  | none => g.blanks
  | some (first, more) =>
    if first.head? == some '\n' then if more.isEmpty then [' '] else more else first ++ more

def isBroken (g : Gap) : Bool := g.breaks.isSome

/-- The gap from a place on; behind a line end there must be no tab before column `indent`. -/
def read (indent : Nat) : Nat → Gap → Cursor → Option (Gap × Cursor)
  | 0, _, _ => none
  | fuel + 1, g, c =>
    match c.ahead with
    | [] => some (g, c)
    | x :: _ =>
      if isBlank x then
        if !g.isBroken then read indent fuel { g with blanks := g.blanks ++ [x] } c.skip
        else if x == '\t' && c.column < indent then none
        else read indent fuel g c.skip
      else if isBreak x then
        let (line, next) := c.breakLine
        match g.breaks with
        | none => read indent fuel ⟨[], some (line, [])⟩ next
        | some (first, more) => read indent fuel { g with breaks := some (first, more ++ line) } next
      else some (g, c)

end Gap

/-! ## Plain scalars -/

/-- The indicators that end a plain scalar in brackets. -/
def isBracket (c : Char) : Bool := c == ',' || c == '[' || c == ']' || c == '\x7b' || c == '\x7d'

/-- The characters of a plain scalar up to a gap or an indicator. -/
def plainWord (inFlow : Bool) : List Char → Option (List Char)
  | [] => some []
  | c :: rest =>
    if isBlank c || isBreak c then some []
    else if c == ':' && inFlow && rest.head?.any (fun d => isBracket d || d == '?') then none
    else if c == ':' && atGap rest then some []
    else if inFlow && isBracket c then some []
    else (plainWord inFlow rest).map (c :: ·)

/-- A plain scalar: its text, whether a line end is behind it, and the place behind both.  `gap` is what is before the
next word. -/
def plain (inFlow : Bool) (indent : Nat) : Nat → List Char → Gap → Cursor → Option (List Char × Bool × Cursor)
  | 0, _, _, _ => none
  | fuel + 1, text, gap, c =>
    if c.partsDocuments || c.ahead.head? == some '#' then some (text, gap.isBroken, c)
    else match plainWord inFlow c.ahead with
      | none => none
      | some [] => some (text, gap.isBroken, c)
      | some word =>
        let text := text ++ gap.text ++ word
        let c := c.advance word.length
        if c.ahead.isEmpty || !atGap c.ahead then some (text, false, c)
        else match Gap.read indent (c.ahead.length + 1) {} c with
          | none => none
          | some (gap, c) =>
            if !inFlow && c.column < indent then some (text, gap.isBroken, c) else plain inFlow indent fuel text gap c

/-! ## Scalars in quotes -/

/-- The character of an escape of one letter. -/
def escaped? (c : Char) : Option Char :=
  match c with
  | '0' => some (Char.ofNat 0)
  | 'a' => some '\x07'
  | 'b' => some '\x08'
  | 't' => some '\t'
  | '\t' => some '\t'
  | 'n' => some '\n'
  | 'v' => some '\x0b'
  | 'f' => some '\x0c'
  | 'r' => some '\r'
  | 'e' => some '\x1b'
  | ' ' => some ' '
  | '"' => some '"'
  | '/' => some '/'
  | '\\' => some '\\'
  | 'N' => some (Char.ofNat 0x85)
  | '_' => some (Char.ofNat 0xA0)
  | 'L' => some (Char.ofNat 0x2028)
  | 'P' => some (Char.ofNat 0x2029)
  | _ => none

/-- How many digits follow the letter of an escape of a code point. -/
def codeSize? (c : Char) : Option Nat :=
  if c == 'x' then some 2 else if c == 'u' then some 4 else if c == 'U' then some 8 else none

/-- The character of a code point in hexadecimal digits. -/
def code? (size : Nat) (cs : List Char) : Option Char :=
  let ds := (cs.take size).filterMap (Text.Quoted.digit? 16)
  let n := ds.foldl (fun n d => n * 16 + d) 0
  if ds.length == size && Text.Quoted.isScalar n then some (Char.ofNat n) else none

/-- The characters in quotes up to a gap or the end: the text, whether a line end behind it is escaped, and the place
behind that. -/
def quotedWord (quote : Char) : Nat → Cursor → Option (List Char × Bool × Cursor)
  | 0, _ => none
  | fuel + 1, c =>
    let more (x : Char) (c : Cursor) := (quotedWord quote fuel c).map fun r => (x :: r.1, r.2)
    match c.ahead with
    | [] => some ([], false, c)
    | x :: rest =>
      if isBlank x || isBreak x then some ([], false, c)
      else if x == quote then
        if quote == '\'' && rest.head? == some quote then more x (c.advance 2) else some ([], false, c)
      else if x == '\\' && quote == '"' then
        match rest with
        | [] => none
        | e :: rest =>
          if isBreak e then some ([], true, c.skip.breakLine.2)
          else match codeSize? e with
            | some size =>
              match code? size rest with
              | some y => more y (c.advance (2 + size))
              | none => none
            | none =>
              match escaped? e with
              | some y => more y (c.advance 2)
              | none => none
      else more x c.skip

/-- A scalar behind its opening quote, and the place behind its closing one. -/
def quoted (quote : Char) : Nat → List Char → Cursor → Option (List Char × Cursor)
  | 0, _, _ => none
  | fuel + 1, text, c =>
    if c.partsDocuments || c.ahead.isEmpty then none
    else match quotedWord quote (c.ahead.length + 1) c with
      | none => none
      | some (word, escaped, c) =>
        let text := text ++ word
        if c.ahead.head? == some quote then some (text, c.skip)
        else match Gap.read 0 (c.ahead.length + 1) { breaks := if escaped then some ([], []) else none } c with
          | none => none
          | some (gap, c) => quoted quote fuel (text ++ gap.text) c

/-! ## Blocks of lines -/

/-- What becomes of the line ends at the end of a block. -/
inductive Chomping where
  | strip
  | clip
  | keep
  deriving DecidableEq, Repr

/-- The sign for what becomes of line ends at the end. -/
def chomping? (c : Cursor) : Option (Chomping × Cursor) :=
  match c.ahead with
  | '+' :: _ => some (.keep, c.skip)
  | '-' :: _ => some (.strip, c.skip)
  | _ => none

/-- The digit for the indentation, zero if there is none; the digit zero is none. -/
def increment? (c : Cursor) : Option (Nat × Cursor) :=
  match c.ahead with
  | d :: _ => if !d.isDigit then some (0, c) else if d == '0' then none else some (d.toNat - 48, c.skip)
  | [] => some (0, c)

/-- The header of a block behind its indicator. -/
def blockHeader? (c : Cursor) : Option (Chomping × Nat × Cursor) := do
  match chomping? c with
  | some (chomping, c) =>
    let (increment, c) ← increment? c
    return (chomping, increment, ← c.endLine?)
  | none =>
    let (increment, c) ← increment? c
    match if increment == 0 then none else chomping? c with
    | some (chomping, c) => return (chomping, increment, ← c.endLine?)
    | none => return (.clip, increment, ← c.endLine?)

/-- The empty lines before a line of a block: their line ends, the deepest column on them, and the place behind the
indentation of the line.  The indentation is zero as long as it is not known. -/
def blockGap (indent : Nat) : Nat → Nat → List Char → Cursor → Option (List Char × Nat × Cursor)
  | 0, _, _, _ => none
  | fuel + 1, deepest, breaks, c =>
    let spaces := (c.ahead.takeWhile (· == ' ')).length
    let c := c.advance (if indent == 0 then spaces else min spaces (indent - c.column))
    let deepest := max deepest c.column
    if (indent == 0 || c.column < indent) && c.ahead.head? == some '\t' then none
    else if c.ahead.isEmpty || !atLineEnd c.ahead then some (breaks, deepest, c)
    else
      let (line, c) := c.breakLine
      blockGap indent fuel deepest (breaks ++ line) c

/-- The lines of a block.  `text` is what has been read, `break_` the line end behind it and `breaks` those of the
empty lines behind that; `spaced` says that the last line starts with a blank, so it is not folded. -/
def blockLines (folded : Bool) (indent : Nat) : Nat → List Char → List Char → List Char → Bool → Cursor →
    Option (List Char × List Char × List Char × Cursor)
  | 0, _, _, _, _, _ => none
  | fuel + 1, text, break_, breaks, spaced, c =>
    if c.column != indent || c.ahead.isEmpty then some (text, break_, breaks, c)
    else
      let blank := c.ahead.head?.any isBlank
      let joint :=
        if folded && break_.head? == some '\n' && !spaced && !blank then if breaks.isEmpty then [' '] else []
        else break_
      let (line, c) := c.span (!isBreak ·)
      let (break_, c) := c.breakLine
      match blockGap indent (c.ahead.length + 1) 0 [] c with
      | none => none
      | some (next, _, c) => blockLines folded indent fuel (text ++ joint ++ breaks ++ line) break_ next blank c

/-- A block of lines behind its indicator, inside what starts at column `outer`. -/
def block (folded : Bool) (outer : Int) (c : Cursor) : Option (List Char × Cursor) := do
  let (chomping, increment, c) ← blockHeader? c
  let given : Nat := if increment == 0 then 0 else increment + outer.toNat
  let (breaks, deepest, c) ← blockGap given (c.ahead.length + 1) 0 [] c
  let indent := if given == 0 then max deepest (max (outer + 1).toNat 1) else given
  let (text, break_, breaks, c) ← blockLines folded indent (c.ahead.length + 1) [] [] breaks false c
  return (match chomping with
    | .strip => text
    | .clip => text ++ break_
    | .keep => text ++ break_ ++ breaks, c)

end Harvest.Yaml
