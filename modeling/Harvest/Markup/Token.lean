import Harvest.Markup.Doctype
import Harvest.Markup.Reference
import Harvest.Text.Find
/-!
# Tokens of markup

A text is read token by token: tags, comments, declarations and runs of characters.  What a tag opens decides how the
text behind it is read, so `next` is told that each time.  Nothing is ever an error: each text has its tokens.
-/
namespace Harvest.Markup

open Doctype (isSpace withoutNull lower)

/-- A start tag; no two attributes have one name. -/
structure StartTag where
  name : String
  attrs : List (String × String)
  selfClosing : Bool
  deriving DecidableEq, Repr, Inhabited

/-- A token. -/
inductive Token where
  | doctype (d : Doctype)
  | start (t : StartTag)
  | stop (name : String)
  | comment (text : String)
  /-- White space. -/
  | blank (cs : List Char)
  /-- Characters that are no white space. -/
  | chars (cs : List Char)
  | null
  | eof
  deriving Repr, Inhabited

/-- How a text is read. -/
inductive Reading where
  | markup
  /-- Characters and references up to an end tag. -/
  | escapable (stop : String)
  /-- Characters up to an end tag. -/
  | raw (stop : String)
  /-- Characters up to an end tag outside of comments with scripts in them. -/
  | script (stop : String)
  /-- Characters only. -/
  | plain
  deriving DecidableEq, Repr, Inhabited

namespace Token

/-! ## Tags -/

/-- Does the character end a name in a tag? -/
def endsName (c : Char) : Bool := isSpace c || c == '/' || c == '>'

/-- The value of an attribute behind its equals sign, and the text behind it. -/
def value (cs : List Char) : List Char × List Char :=
  let clean (v : List Char) : List Char := Reference.resolve true (withoutNull v)
  match cs.dropWhile isSpace with
  | '"' :: rest =>
    let v := rest.takeWhile (· != '"')
    (clean v, rest.drop (v.length + 1))
  | '\'' :: rest =>
    let v := rest.takeWhile (· != '\'')
    (clean v, rest.drop (v.length + 1))
  | cs =>
    let v := cs.takeWhile fun c => !(isSpace c || c == '>')
    (clean v, cs.drop v.length)

/-- Is the quote that opens a value ever closed? -/
def isClosed (cs : List Char) : Bool :=
  match cs.dropWhile isSpace with
  | '"' :: rest => rest.contains '"'
  | '\'' :: rest => rest.contains '\''
  | _ => true

/-- The attributes of a tag and the text behind it, or nothing if the text ends inside the tag. -/
def attributes : Nat → List (String × String) → List Char → Option (StartTag × List Char)
  | 0, _, _ => none
  | fuel + 1, done, cs =>
    match cs with
    | [] => none
    | '>' :: rest => some (⟨"", done.reverse, false⟩, rest)
    | '/' :: '>' :: rest => some (⟨"", done.reverse, true⟩, rest)
    | c :: rest =>
      if isSpace c || c == '/' then attributes fuel done rest
      else
        let more := rest.takeWhile fun c => !(endsName c || c == '=')
        let name := String.ofList (lower (withoutNull (c :: more)))
        let rest := rest.drop more.length
        let add (v : List Char) : List (String × String) :=
          if done.any (·.1 == name) then done else (name, String.ofList v) :: done
        match rest.dropWhile isSpace with
        | '=' :: after =>
          if isClosed after then
            let (v, rest) := value after
            attributes fuel (add v) rest
          else none
        | rest => attributes fuel (add []) rest

def tag? (cs : List Char) : Option (StartTag × List Char) :=
  let name := cs.takeWhile (!endsName ·)
  let rest := cs.drop name.length
  (attributes (rest.length + 1) [] rest).map fun p =>
    ({ p.1 with name := String.ofList (lower (withoutNull name)) }, p.2)

/-! ## Comments and declarations -/

/-- The text of a comment that the end of the text cuts off. -/
def unfinished (cs : List Char) : List Char :=
  match cs.reverse with
  | '!' :: '-' :: '-' :: rest => rest.reverse
  | '-' :: '-' :: rest => rest.reverse
  | '-' :: rest => rest.reverse
  | _ => cs

/-- The inside of a comment and the text behind it. -/
def commentBody : List Char → List Char × List Char
  | [] => ([], [])
  | '-' :: '-' :: '>' :: rest => ([], rest)
  | '-' :: '-' :: '!' :: '>' :: rest => ([], rest)
  | c :: cs => let r := commentBody cs; (c :: r.1, r.2)

/-- Does a comment end somewhere in the text? -/
def endsComment : List Char → Bool
  | [] => false
  | '-' :: '-' :: '>' :: _ => true
  | '-' :: '-' :: '!' :: '>' :: _ => true
  | _ :: cs => endsComment cs

def commentOf (cs : List Char) : Token := .comment (String.ofList (withoutNull cs))

def wholeComment (cs : List Char) : Token × List Char :=
  match cs with
  | '>' :: rest => (commentOf [], rest)
  | '-' :: '>' :: rest => (commentOf [], rest)
  | cs =>
    if endsComment cs then let r := commentBody cs; (commentOf r.1, r.2) else (commentOf (unfinished cs), [])

/-- A comment up to the next closing bracket. -/
def bogusComment (cs : List Char) : Token × List Char :=
  let text := cs.takeWhile (· != '>')
  (commentOf text, cs.drop (text.length + 1))

def doctypeOf (cs : List Char) : Token × List Char :=
  let text := cs.takeWhile (· != '>')
  let d := Doctype.read text
  match cs.drop text.length with
  | _ :: rest => (.doctype d, rest)
  | [] => (.doctype { d with broken := true }, [])

/-! ## Characters -/

/-- The characters up to the next one with a meaning, as a run. -/
def run (stops : Char → Bool) (cs : List Char) : Token × List Char :=
  let isBlank := cs.head?.any isSpace
  let r := cs.takeWhile fun c => !stops c && isSpace c == isBlank
  (if isBlank then .blank r else .chars r, cs.drop r.length)

/-- A run of resolved characters; what they stand for never has a meaning itself. -/
def resolved (cs : List Char) : Token := if cs.all isSpace then .blank cs else .chars cs

/-- A section of characters behind its opening. -/
def characterSection (cs : List Char) : Token × List Char :=
  match Text.cut? [']', ']', '>'] cs with
  | some (text, rest) => (resolved (withoutNull text), rest)
  | none => (resolved (withoutNull cs), [])

/-- Is this an opening bracket, an ampersand or a null character? -/
def isMark (c : Char) : Bool := c == '<' || c == '&' || c.toNat == 0

/-- The next token of markup; sections of characters are known only if `sections`. -/
def markup (sections : Bool) (cs : List Char) : Token × List Char :=
  match cs with
  | [] => (.eof, [])
  | '<' :: '/' :: rest =>
    match rest with
    | [] => (.chars ['<', '/'], [])
    | '>' :: rest => (.blank [], rest)
    | c :: _ =>
      if c.isAlpha then
        match tag? rest with
        | some (t, rest) => (.stop t.name, rest)
        | none => (.eof, [])
      else bogusComment rest
  | '<' :: '!' :: '-' :: '-' :: rest => wholeComment rest
  | '<' :: '!' :: rest =>
    if Doctype.startsWith "doctype" rest then doctypeOf (rest.drop 7)
    else if sections && "[CDATA[".toList.isPrefixOf rest then characterSection (rest.drop 7)
    else bogusComment rest
  | '<' :: rest =>
    match rest with
    | c :: _ =>
      if c == '?' then bogusComment rest
      else if c.isAlpha then
        match tag? rest with
        | some (t, rest) => (.start t, rest)
        | none => (.eof, [])
      else (.chars ['<'], rest)
    | [] => (.chars ['<'], [])
  | '&' :: rest =>
    match Reference.read? false rest with
    | some (text, rest) => (resolved text, rest)
    | none => (.chars ['&'], rest)
  | c :: rest => if c.toNat == 0 then (.null, rest) else run isMark cs

/-! ## Text up to an end tag -/

/-- The end tag of a name at the head of a text: the text behind the name. -/
def endTag? (name : String) (cs : List Char) : Option (List Char) :=
  match cs with
  | '<' :: '/' :: rest =>
    let rest' := rest.drop name.length
    if Doctype.startsWith name rest && rest'.head?.any endsName then some rest' else none
  | _ => none

/-- The text up to the end tag of a name. -/
def upTo (name : String) : List Char → List Char × List Char
  | [] => ([], [])
  | c :: cs =>
    if (endTag? name (c :: cs)).isSome then ([], c :: cs)
    else let r := upTo name cs; (c :: r.1, r.2)

/-- Where a script's text is: outside of comments, in one, or in a script inside one. -/
inductive Depth where
  | outside
  | comment
  | inner
  deriving DecidableEq

/-- Is a whole word `script`, in any case, at the head of the text? -/
def isScriptWord (cs : List Char) : Bool :=
  Doctype.startsWith "script" cs && (cs.drop 6).head?.any endsName

/-- The text of a script up to its end tag; `dashes` counts the dashes right before, up to two. -/
def upToScriptEnd (name : String) : Depth → Nat → List Char → List Char × List Char
  | _, _, [] => ([], [])
  | depth, dashes, c :: cs =>
    if depth != .inner && (endTag? name (c :: cs)).isSome then ([], c :: cs)
    else
      let state : Depth × Nat :=
        match depth with
        | .outside => if c == '<' && ['!', '-', '-'].isPrefixOf cs then (.comment, 0) else (.outside, 0)
        | .comment =>
          if c == '-' then (.comment, min 2 (dashes + 1))
          else if c == '>' && dashes == 2 then (.outside, 0)
          else if c == '<' && isScriptWord cs then (.inner, 0)
          else (.comment, 0)
        | .inner =>
          if c == '-' then (.inner, min 2 (dashes + 1))
          else if c == '>' && dashes == 2 then (.outside, 0)
          else if c == '<' && cs.head? == some '/' && isScriptWord (cs.drop 1) then (.comment, 0)
          else (.inner, 0)
      let r := upToScriptEnd name state.1 state.2 cs
      (c :: r.1, r.2)

/-- The token of a text that is read as it is. -/
def textOf (cs : List Char) : Token := .chars (withoutNull cs)

/-- The text before an end tag, or the end tag itself. -/
def element (name : String) (text : List Char × List Char) (resolve : List Char → List Char) : Token × List Char :=
  match text with
  | ([], []) => (.eof, [])
  | ([], rest) =>
    match tag? (rest.drop 2) with
    | some (_, rest) => (.stop name, rest)
    | none => (.eof, [])
  | (cs, rest) => (textOf (resolve cs), rest)

/-- The next token of a text and what follows it; at the end it is `eof` again and again. -/
def next (reading : Reading) (sections : Bool) (cs : List Char) : Token × List Char :=
  match reading with
  | .markup => markup sections cs
  | .escapable name => element name (upTo name cs) (Reference.resolve false)
  | .raw name => element name (upTo name cs) id
  | .script name => element name (upToScriptEnd name .outside 0 cs) id
  | .plain => if cs.isEmpty then (.eof, []) else (textOf cs, [])

end Token

end Harvest.Markup
