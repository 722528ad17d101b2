import Harvest.Yaml.Scalar
/-!
# Tokens of YAML texts

A text as a list of tokens.  Indentation becomes tokens of its own, and a key that is written before its colon is
marked in front.  `Token.all?` has no answer where a text breaks a rule of the characters, of indentation or of keys.
-/
namespace Harvest.Yaml

/-- A token. -/
inductive Token where
  /-- The version that a directive asks for. -/
  | version (major minor : Nat)
  | handle (name : String)
  | documentStart
  | documentEnd
  | blockSequence
  | blockMapping
  | blockEnd
  | flowSequence
  | flowSequenceEnd
  | flowMapping
  | flowMappingEnd
  | blockEntry
  | flowEntry
  | key
  | value
  | alias (name : String)
  | anchor (name : String)
  /-- A tag by its handle, which is empty for one that is written in full. -/
  | tag (handle : String)
  | scalar (plain : Bool) (text : String)
  deriving DecidableEq, Repr

/-- A token that may turn out to be a key: its place in the list and in the text.  A required one must. -/
structure KeyMark where
  number : Nat
  required : Bool
  index : Nat
  line : Nat
  column : Nat
  deriving DecidableEq, Repr

/-- A scan that is under way. -/
structure Scan where
  cursor : Cursor
  tokens : Array Token
  /-- The column of the innermost block, and those of the blocks around it. -/
  indent : Int
  outer : List Int
  keyAllowed : Bool
  /-- What may be a key, for each bracket that is open and for what is around them. -/
  keys : List (Option KeyMark)

namespace Scan

def start (cs : List Char) : Scan := ⟨.start cs, #[], -1, [], true, [none]⟩

def inFlow (s : Scan) : Bool := 1 < s.keys.length

def push (s : Scan) (t : Token) : Scan := { s with tokens := s.tokens.push t }

/-- Goes on at a place. -/
def at_ (s : Scan) (c : Cursor) : Scan := { s with cursor := c }

def allow (s : Scan) (allowed : Bool) : Scan := { s with keyAllowed := allowed }

/-! ## Keys -/

/-- Forgets the innermost token that may be a key. -/
def dropKey (s : Scan) : Option Scan :=
  match s.keys with
  | some k :: rest => if k.required then none else some { s with keys := none :: rest }
  | _ => some s

/-- Marks the next token as one that may be a key, where there may be one. -/
def markKey (s : Scan) : Option Scan :=
  if !s.keyAllowed then some s
  else do
    let s ← s.dropKey
    let required := !s.inFlow && s.indent == (s.cursor.column : Int)
    let k : KeyMark := ⟨s.tokens.size, required, s.cursor.index, s.cursor.line, s.cursor.column⟩
    return { s with keys := some k :: s.keys.drop 1 }

/-- Can a token still be a key?  A key ends on its line and within 1024 characters. -/
def isFresh (c : Cursor) (k : KeyMark) : Bool := c.line ≤ k.line && c.index ≤ k.index + 1024

/-- Forgets the tokens that can no longer be keys. -/
def dropStale (s : Scan) : Option Scan :=
  let isStale (k : KeyMark) : Bool := !isFresh s.cursor k
  if s.keys.any fun k => k.any fun k => isStale k && k.required then none
  else some { s with keys := s.keys.map fun k => k.filter fun k => !isStale k }

/-! ## Indentation -/

/-- Opens a block at a column where none is open; its token goes to the place `number`. -/
def openBlock (s : Scan) (column number : Nat) (t : Token) : Scan :=
  if s.inFlow || (column : Int) ≤ s.indent then s
  else { s with
    indent := column
    outer := s.indent :: s.outer
    tokens := (s.tokens.toList.take number ++ t :: s.tokens.toList.drop number).toArray }

/-- The blocks that go further right than a column, innermost first, are closed. -/
def closeUpTo (column indent : Int) (tokens : Array Token) : List Int → Int × List Int × Array Token
  | [] => (indent, [], tokens)
  | o :: outer =>
    if column < indent then closeUpTo column o (tokens.push .blockEnd) outer else (indent, o :: outer, tokens)

/-- Closes the blocks that go further right than a column. -/
def closeBlocks (s : Scan) (column : Int) : Scan :=
  if s.inFlow then s
  else
    let (indent, outer, tokens) := closeUpTo column s.indent s.tokens s.outer
    { s with indent, outer, tokens }

/-! ## Tokens of their own kinds -/

/-- The name of an anchor behind its sign. -/
def anchorName? (c : Cursor) : Option (String × Cursor) :=
  let (name, c) := c.span isWordChar
  let ends := atGap c.ahead || c.ahead.head?.any (fun d => "?:,]\x7d%@`".toList.contains d)
  if name.isEmpty || !ends then none else some (String.ofList name, c)

def isTagChar (inFull : Bool) (c : Char) : Bool :=
  isWordChar c || ";/?:@&=+$.%!~*'()".toList.contains c || (inFull && (c == ',' || c == '[' || c == ']'))

/-- How many bytes a byte announces for its character. -/
def announced (byte : Nat) : Nat :=
  if byte < 0x80 then 1 else if byte / 32 == 6 then 2 else if byte / 16 == 14 then 3 else if byte / 8 == 30 then 4 else 0

/-- Are the escapes in a tag those of whole characters?  `owed` counts the bytes that a character still lacks. -/
def areEscapes : Nat → List Char → Bool
  | owed, '%' :: a :: b :: rest =>
    match Text.Quoted.digit? 16 a, Text.Quoted.digit? 16 b with
    | some x, some y =>
      let byte := x * 16 + y
      if owed == 0 then announced byte != 0 && areEscapes (announced byte - 1) rest
      else byte / 64 == 2 && areEscapes (owed - 1) rest
    | _, _ => false
  | owed, c :: rest => owed == 0 && c != '%' && areEscapes 0 rest
  | owed, [] => owed == 0

/-- The characters of a tag, and the place behind them. -/
def tagText? (inFull : Bool) (c : Cursor) : Option (List Char × Cursor) :=
  let (text, c) := c.span (isTagChar inFull)
  if areEscapes 0 text then some (text, c) else none

/-- The handle of a tag behind its sign, if it has one of its own: a word and another sign, or just that. -/
def ownHandle? (c : Cursor) : Option (String × Cursor) :=
  let (word, c) := c.span isWordChar
  if c.ahead.head? == some '!' then some (String.ofList ('!' :: (word ++ ['!'])), c.skip) else none

/-- A tag behind its sign: its handle and the place behind it. -/
def tag? (inFlow : Bool) (c : Cursor) : Option (String × Cursor) := do
  let (handle, c) ←
    if c.ahead.head? == some '<' then do
      let (text, c) ← tagText? true c.skip
      if text.isEmpty || c.ahead.head? != some '>' then none else some ("", c.skip)
    else match ownHandle? c with
      | some (handle, c) => do
        let (text, c) ← tagText? false c
        if text.isEmpty then none else some (handle, c)
      | none => do
        let (text, c) ← tagText? false c
        some (if text.isEmpty then "" else "!", c)
  if atGap c.ahead || (inFlow && c.ahead.head? == some ',') then some (handle, c) else none

def versionPart? (c : Cursor) : Option (Nat × Cursor) :=
  let (ds, c) := c.span Char.isDigit
  if ds.isEmpty || 9 < ds.length then none else some (ds.foldl (fun n d => n * 10 + (d.toNat - 48)) 0, c)

def directive? (c : Cursor) : Option (Token × Cursor) := do
  let (name, c) := c.span isWordChar
  if name.isEmpty || !atGap c.ahead then none
  else
    let c := c.skipWhile isBlank
    if String.ofList name == "YAML" then
      let (major, c) ← versionPart? c
      if c.ahead.head? != some '.' then none
      else
        let (minor, c) ← versionPart? c.skip
        return (.version major minor, ← c.endLine?)
    else if String.ofList name == "TAG" then
      if c.ahead.head? != some '!' then none
      else
        let (word, c) := c.skip.span isWordChar
        let closed := c.ahead.head? == some '!'
        if (!closed && !word.isEmpty) || !(if closed then c.skip else c).ahead.head?.any isBlank then none
        else
          let c := (if closed then c.skip else c).skipWhile isBlank
          let (text, c) ← tagText? true c
          if text.isEmpty || !atGap c.ahead then none
          else return (.handle (String.ofList ('!' :: (word ++ if closed then ['!'] else []))), ← c.endLine?)
    else none

/-! ## Steps -/

/-- The place of the next token: behind blanks, comments and line ends.  In blocks a tab is no blank where a key may
come next, and a line end lets one come. -/
def toToken : Nat → Scan → Scan
  | 0, s => s
  | fuel + 1, s =>
    let c := if s.cursor.index == 0 && s.cursor.ahead.head? == some '\uFEFF' then s.cursor.skip else s.cursor
    let c := c.skipWhile fun x => x == ' ' || (x == '\t' && (s.inFlow || !s.keyAllowed))
    let c := if c.ahead.head? == some '#' then c.skipWhile (!isBreak ·) else c
    if c.ahead.head?.any isBreak then
      toToken fuel ((s.at_ c.breakLine.2).allow (s.keyAllowed || !s.inFlow))
    else s.at_ c

def sign (s : Scan) (t : Token) : Scan := (s.push t).at_ s.cursor.skip

/-- A line that parts documents, or a directive, closes all blocks. -/
def closeAll (s : Scan) : Option Scan := do return (← (s.closeBlocks (-1)).dropKey).allow false

def openFlow (s : Scan) (t : Token) : Option Scan := do
  let s ← s.markKey
  return ({ s with keys := none :: s.keys }.allow true).sign t

def closeFlow (s : Scan) (t : Token) : Option Scan := do
  let s ← s.dropKey
  return ({ s with keys := if s.inFlow then s.keys.drop 1 else s.keys }.allow false).sign t

/-- The sign of an item or of a key, which opens a block if none is open here. -/
def opener (s : Scan) (block t : Token) (allowed : Bool) : Option Scan := do
  let s ← if s.inFlow then some s
    else if s.keyAllowed then some (s.openBlock s.cursor.column s.tokens.size block) else none
  let s ← s.dropKey
  return (s.allow allowed).sign t

/-- The sign between a key and its value. -/
def valueSign (s : Scan) : Option Scan :=
  match s.keys with
  | some k :: rest =>
    let tokens := (s.tokens.toList.take k.number ++ .key :: s.tokens.toList.drop k.number).toArray
    let s := { s with tokens, keys := none :: rest }
    some (((s.openBlock k.column k.number .blockMapping).allow false).sign .value)
  | _ =>
    if s.inFlow then some ((s.allow false).sign .value)
    else if s.keyAllowed then
      some (((s.openBlock s.cursor.column s.tokens.size .blockMapping).allow true).sign .value)
    else none

/-- A token that may be a key, as `read` reads it at the cursor. -/
def content (s : Scan) (read : Cursor → Option (Token × Cursor)) : Option Scan := do
  let s ← s.markKey
  let (t, c) ← read s.cursor
  return ((s.allow false).push t).at_ c

def quotedScalar (s : Scan) (quote : Char) : Option Scan :=
  s.content fun c => (quoted quote (c.ahead.length + 1) [] c.skip).map fun r => (.scalar false (String.ofList r.1), r.2)

def blockScalar (s : Scan) (folded : Bool) : Option Scan := do
  let s ← s.dropKey
  let (text, c) ← block folded s.indent s.cursor.skip
  return ((s.allow true).push (.scalar false (String.ofList text))).at_ c

/-- A plain scalar; behind a line end a key may follow. -/
def plainScalar (s : Scan) : Option Scan := do
  let s ← s.markKey
  let (text, broken, c) ← plain s.inFlow (s.indent + 1).toNat (s.cursor.ahead.length + 1) [] {} s.cursor
  return ((s.allow broken).push (.scalar true (String.ofList text))).at_ c

def startsPlain (inFlow : Bool) (c : Char) (rest : List Char) : Bool :=
  (!isBlank c && !"-?:,[]\x7b\x7d#&*!|>'\"%@`".toList.contains c)
    || (c == '-' && !rest.head?.any isBlank)
    || (!inFlow && (c == '?' || c == ':') && !atGap rest)

/-- The token at the cursor, which is at no blank. -/
def token (s : Scan) : Option Scan :=
  match s.cursor.ahead with
  | [] => some s
  | c :: rest =>
    if s.cursor.column == 0 && c == '%' then do
      let s ← s.closeAll
      let (t, c) ← directive? s.cursor.skip
      return (s.push t).at_ c
    else if s.cursor.isMark '-' then do
      let s ← s.closeAll
      return (s.push .documentStart).at_ (s.cursor.advance 3)
    else if s.cursor.isMark '.' then do
      let s ← s.closeAll
      return (s.push .documentEnd).at_ (s.cursor.advance 3)
    else if c == '[' then s.openFlow .flowSequence
    else if c == '\x7b' then s.openFlow .flowMapping
    else if c == ']' then s.closeFlow .flowSequenceEnd
    else if c == '\x7d' then s.closeFlow .flowMappingEnd
    else if c == ',' then do return ((← s.dropKey).allow true).sign .flowEntry
    else if c == '-' && atGap rest then s.opener .blockSequence .blockEntry true
    else if c == '?' && (s.inFlow || atGap rest) then s.opener .blockMapping .key !s.inFlow
    else if c == ':' && (s.inFlow || atGap rest) then s.valueSign
    else if c == '*' then s.content fun c => (anchorName? c.skip).map fun r => (.alias r.1, r.2)
    else if c == '&' then s.content fun c => (anchorName? c.skip).map fun r => (.anchor r.1, r.2)
    else if c == '!' then s.content fun c => (tag? s.inFlow c.skip).map fun r => (.tag r.1, r.2)
    else if c == '|' && !s.inFlow then s.blockScalar false
    else if c == '>' && !s.inFlow then s.blockScalar true
    else if c == '\'' || c == '"' then s.quotedScalar c
    else if startsPlain s.inFlow c rest then s.plainScalar
    else none

def finish (s : Scan) : Option (List Token) := do
  let s ← (s.closeBlocks (-1)).dropKey
  return s.tokens.toList

/-- Scans to the end of the text. -/
def run : Nat → Scan → Option (List Token)
  | 0, _ => none
  | fuel + 1, s => do
    let s ← (toToken (s.cursor.ahead.length + 1) s).dropStale
    if s.cursor.ahead.isEmpty then s.finish
    else run fuel (← (s.closeBlocks s.cursor.column).token)

end Scan

def Token.all? (cs : List Char) : Option (List Token) :=
  if cs.all isPrintable then Scan.run (cs.length + 1) (.start cs) else none

end Harvest.Yaml
