import Harvest.Text.Quoted
/-!
# Components of selectors

A selector's text as a list of components: names, numbers, strings, signs, and blocks of components in brackets.  The
end of the text closes every open block; comments do not count.
-/
namespace Harvest.Css

/-- A word of a selector's text. -/
inductive Token where
  | white
  | ident (s : String)
  | function (name : String)
  /-- A hash sign and a name; `isId` if it could be a name by itself. -/
  | hash (s : String) (isId : Bool)
  | string (s : String)
  /-- A number, with its value if it is an integer. -/
  | number (signed : Bool) (int : Option Int)
  | dimension (int : Option Int) (unit : String)
  | delim (c : Char)
  | colon
  | comma
  /-- A sign followed by an equals sign. -/
  | compare (c : Char)
  | opening (c : Char)
  | closing (c : Char)
  /-- A word that no selector has: a percentage, a keyword, a mark of comments or a string that breaks off. -/
  | other
  | broken
  deriving DecidableEq, Repr

/-- A token, or a block of components. -/
inductive Component where
  | token (t : Token)
  | function (name : String) (args : List Component)
  | block (c : Char) (inner : List Component)
  deriving Repr, Inhabited

namespace Token

def isSpace (c : Char) : Bool := c == ' ' || c == '\t' || c == '\n' || c == '\x0c' || c == '\r'

def isNewline (c : Char) : Bool := c == '\n' || c == '\x0c' || c == '\r'

def isNameStart (c : Char) : Bool := c.isAlpha || c == '_' || c.toNat == 0 || c.toNat ≥ 0x80

def isNameChar (c : Char) : Bool := isNameStart c || c.isDigit || c == '-'

/-- Is this the start of an escape: a backslash and no line end? -/
def isEscape : List Char → Bool
  | '\\' :: c :: _ => !isNewline c
  | ['\\'] => true
  | _ => false

def startsName (cs : List Char) : Bool :=
  match cs with
  | '-' :: c :: rest => isNameStart c || c == '-' || isEscape (c :: rest)
  | c :: rest => isNameStart c || isEscape (c :: rest)
  | [] => false

/-- The character of an escape behind its backslash. -/
def escape (cs : List Char) : Char × List Char :=
  match cs with
  | [] => ('\uFFFD', [])
  | c :: rest =>
    let ds := (cs.take 6).takeWhile fun c => (Text.Quoted.digit? 16 c).isSome
    if ds.isEmpty then (c, rest)
    else
      let n := ds.foldl (fun n c => n * 16 + (Text.Quoted.digit? 16 c).getD 0) 0
      let c := if n == 0 || !Text.Quoted.isScalar n then '\uFFFD' else Char.ofNat n
      match cs.drop ds.length with
      | '\r' :: '\n' :: rest => (c, rest)
      | s :: rest => (c, if isSpace s then rest else s :: rest)
      | [] => (c, [])

def name : Nat → List Char → List Char × List Char
  | 0, cs => ([], cs)
  | fuel + 1, cs =>
    match cs with
    | '\\' :: rest =>
      if isEscape cs then
        let (c, rest) := escape rest
        let r := name fuel rest
        (c :: r.1, r.2)
      else ([], cs)
    | c :: rest =>
      if isNameChar c then
        let r := name fuel rest
        ((if c.toNat == 0 then '\uFFFD' else c) :: r.1, r.2)
      else ([], cs)
    | [] => ([], [])

/-- A name at the head of a text, as a string. -/
def nameOf (cs : List Char) : String × List Char :=
  let r := name cs.length cs
  (String.ofList r.1, r.2)

def quoted (quote : Char) : Nat → List Char → Option (List Char × List Char)
  | 0, cs => some ([], cs)
  | fuel + 1, cs =>
    match cs with
    | [] => some ([], [])
    | '\\' :: [] => some ([], [])
    | '\\' :: '\r' :: '\n' :: rest => quoted quote fuel rest
    | '\\' :: c :: rest =>
      if isNewline c then quoted quote fuel rest
      else
        let (e, rest) := escape (c :: rest)
        (quoted quote fuel rest).map fun r => (e :: r.1, r.2)
    | c :: rest =>
      if c == quote then some ([], rest)
      else if isNewline c then none
      else (quoted quote fuel rest).map fun r => ((if c.toNat == 0 then '\uFFFD' else c) :: r.1, r.2)

/-- Does the text start with a number, which may have a sign? -/
def startsNumber (cs : List Char) : Bool :=
  match cs with
  | '+' :: '.' :: c :: _ => c.isDigit
  | '-' :: '.' :: c :: _ => c.isDigit
  | '+' :: c :: _ => c.isDigit
  | '-' :: c :: _ => c.isDigit
  | '.' :: c :: _ => c.isDigit
  | c :: _ => c.isDigit
  | [] => false

/-- The nearest integer of 32 bits. -/
def clamp (n : Int) : Int := max (-0x80000000) (min n (0x80000000 - 1))

/-- The text behind an exponent, if there is one. -/
def exponent? (cs : List Char) : Option (List Char) :=
  match cs with
  | e :: rest =>
    if e == 'e' || e == 'E' then
      let rest := match rest with
        | '+' :: r => r
        | '-' :: r => r
        | r => r
      if rest.head?.any Char.isDigit then some (rest.dropWhile Char.isDigit) else none
    else none
  | [] => none

/-- A number, with its unit if a name follows. -/
def numeric (cs : List Char) : Token × List Char :=
  let signed := cs.head? == some '+' || cs.head? == some '-'
  let negative := cs.head? == some '-'
  let cs := if signed then cs.drop 1 else cs
  let ds := cs.takeWhile Char.isDigit
  let rest := cs.drop ds.length
  let (whole, rest) := match rest with
    | '.' :: c :: more => if c.isDigit then (false, (c :: more).dropWhile Char.isDigit) else (true, rest)
    | _ => (true, rest)
  let (whole, rest) := match exponent? rest with
    | some rest => (false, rest)
    | none => (whole, rest)
  let n : Int := ds.foldl (fun n c => n * 10 + (c.toNat - 48)) 0
  let int := if whole then some (clamp (if negative then -n else n)) else none
  match rest with
  | '%' :: rest => (.other, rest)
  | _ =>
    if startsName rest then let r := nameOf rest; (.dimension int r.1, r.2) else (.number signed int, rest)

def afterComment : List Char → List Char
  | [] => []
  | '*' :: '/' :: cs => cs
  | _ :: cs => afterComment cs

/-- The token at the head of a text that is not empty, if it is no comment. -/
def next (cs : List Char) : Option Token × List Char :=
  let compareOr (c : Char) (rest : List Char) : Option Token × List Char :=
    match rest with
    | '=' :: rest => (some (.compare c), rest)
    | _ => (some (.delim c), rest)
  let named : Option Token × List Char :=
    match nameOf cs with
    | (n, '(' :: rest) => (some (.function n), rest)
    | (n, rest) => (some (.ident n), rest)
  match cs with
  | [] => (none, [])
  | '/' :: '*' :: rest => (none, afterComment rest)
  | '-' :: '-' :: '>' :: rest => (some .other, rest)
  | '<' :: '!' :: '-' :: '-' :: rest => (some .other, rest)
  | c :: rest =>
    if isSpace c then (some .white, rest.dropWhile isSpace)
    else if c == '"' || c == '\'' then
      match quoted c rest.length rest with
      | some (s, rest) => (some (.string (String.ofList s)), rest)
      | none => (some .broken, rest.dropWhile (!isNewline ·))
    else if startsNumber cs then let r := numeric cs; (some r.1, r.2)
    else if c == '#' then
      if startsName rest then let r := nameOf rest; (some (.hash r.1 true), r.2)
      else if rest.head?.any fun c => c.isDigit || c == '-' then let r := nameOf rest; (some (.hash r.1 false), r.2)
      else (some (.delim c), rest)
    else if c == '@' then
      if startsName rest then (some .other, (nameOf rest).2) else (some (.delim c), rest)
    else if startsName cs then named
    else if c == '$' || c == '*' || c == '^' || c == '|' || c == '~' then compareOr c rest
    else if c == ',' then (some .comma, rest)
    else if c == ':' then (some .colon, rest)
    else if c == ';' then (some .other, rest)
    else if c == '(' || c == '[' || c == '\x7b' then (some (.opening c), rest)
    else if c == ')' || c == ']' || c == '\x7d' then (some (.closing c), rest)
    else (some (.delim c), rest)

/-- The tokens of a text. -/
def all : Nat → List Char → List Token
  | 0, _ => []
  | fuel + 1, cs =>
    if cs.isEmpty then []
    else match next cs with
      | (some t, rest) => t :: all fuel rest
      | (none, rest) => all fuel rest

end Token

namespace Component

def partner (c : Char) : Char := if c == '(' then ')' else if c == '[' then ']' else '\x7d'

/-- The components up to a closing bracket, or up to the end, and the tokens behind it. -/
def group : Nat → Option Char → List Token → List Component × List Token
  | 0, _, ts => ([], ts)
  | _ + 1, _, [] => ([], [])
  | fuel + 1, stop, t :: ts =>
    match t with
    | .closing c =>
      if stop == some c then ([], ts)
      else let r := group fuel stop ts; (.token t :: r.1, r.2)
    | .opening c =>
      let inner := group fuel (some (partner c)) ts
      let r := group fuel stop inner.2
      (.block c inner.1 :: r.1, r.2)
    | .function name =>
      let inner := group fuel (some ')') ts
      let r := group fuel stop inner.2
      (.function name inner.1 :: r.1, r.2)
    | t => let r := group fuel stop ts; (.token t :: r.1, r.2)

def ofText (cs : List Char) : List Component :=
  let ts := Token.all cs.length cs
  (group (ts.length + 1) none ts).1

end Component

end Harvest.Css
