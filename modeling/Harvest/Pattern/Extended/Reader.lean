import Harvest.Pattern.Extended.Expr
import Harvest.Text.Numeral
import Harvest.Text.Utf8
/-!
# Reading extended patterns

The grammar of patterns with lookaround, backreferences, atomic groups and conditions.  Classes keep the
text that they have in plain patterns; a brace that opens no repetition is a literal.
-/
namespace Harvest.Pattern.Extended.Reader

open Harvest.Pattern.Reader (Mode malformed)

/-- Where the reader is: the text ahead, the flags that hold, and the groups opened and named so far (the last named
one first). -/
structure State where
  rest : List Char
  mode : Mode
  groups : Nat
  names : List (String × Nat)
  /-- Has a group been referred to by its number? -/
  numbered : Bool
  /-- How many bytes the whole pattern has. -/
  size : Nat

/-- A part of the reader. -/
abbrev Read (α : Type) := StateT State (Except Fault) α

def fault {α : Type} : Read α := fun _ => .error .malformed

def ahead : Read (List Char) := return (← get).rest

def goTo (cs : List Char) : Read Unit := modify fun st => { st with rest := cs }

/-- What does not count and has begun: nothing, a comment in parentheses, or one up to the end of the line. -/
inductive Gap where
  | none
  | parens
  | line

/-- The text from the next character that counts: comments in parentheses never count, blanks and comments up to the
end of a line only where they are to. -/
def skipGap (spaced : Bool) : Gap → List Char → Except Fault (List Char)
  | .none, '(' :: '?' :: '#' :: rest => skipGap spaced .parens rest
  | .none, c :: rest =>
    if !spaced then .ok (c :: rest)
    else if c == ' ' || c == '\r' || c == '\n' || c == '\t' then skipGap spaced .none rest
    else if c == '#' then skipGap spaced .line rest
    else .ok (c :: rest)
  | .none, [] => .ok []
  | .parens, '\\' :: _ :: rest => skipGap spaced .parens rest
  | .parens, c :: rest => skipGap spaced (if c == ')' then .none else .parens) rest
  | .parens, [] => malformed
  | .line, c :: rest => skipGap spaced (if c == '\n' then .none else .line) rest
  | .line, [] => .ok []

/-- Goes on to the next character that counts. -/
def skip : Read Unit := fun st => do
  let rest ← skipGap st.mode.spaced .none st.rest
  return ((), { st with rest })

/-- Goes past the closing parenthesis that has to stand here. -/
def close : Read Unit := do
  skip
  match ← ahead with
  | ')' :: rest => goTo rest
  | _ => fault

/-- The number that the digits at the head of a text denote, if it has less than 64 bits, and what follows. -/
def decimal? (cs : List Char) : Option (Nat × List Char) :=
  (Text.Numeral.nat64? (cs.takeWhile Text.Numeral.isDigit)).map fun n => (n, cs.dropWhile Text.Numeral.isDigit)

/-! ## Names and references -/

def isNameChar (c : Char) : Bool := c == '_' || Unicode.isAlphanumeric c

/-- A name between two delimiters and the text behind them. -/
def name? (opening closing : List Char) (cs : List Char) : Option (String × List Char) := do
  let cs ← Text.after? opening cs
  let name := cs.takeWhile isNameChar
  let rest ← Text.after? closing (cs.drop name.length)
  if name.isEmpty then none else return (String.ofList name, rest)

/-- A distance back between two delimiters, and the text behind them. -/
def distance? (opening closing : List Char) (cs : List Char) : Option (Nat × List Char) := do
  let cs ← Text.after? opening cs
  let cs ← Text.after? ['-'] cs
  let (n, rest) ← decimal? cs
  let rest ← Text.after? closing rest
  return (n, rest)

/-- A group that may be referred to: one that is open or closed already, the whole match among them. -/
def known (g : Nat) : Read Nat := do
  if g ≤ (← get).groups then return g else fault

/-- The group that a name or a number between two delimiters means; a distance counts back from the last group, and no
distance is the whole match. -/
def named (opening closing : List Char) (relative : Bool) (cs : List Char) : Read Nat := do
  let st ← get
  match name? opening closing cs with
  | some (name, rest) =>
    goTo rest
    match List.lookup name st.names <|> Text.Numeral.nat64? name.toList with
    | some g => known g
    | none => fault
  | none =>
    match if relative then distance? opening closing cs else none with
    | some (n, rest) =>
      goTo rest
      if n == 0 then return 0 else if n ≤ st.groups + 1 then known (st.groups + 1 - n) else fault
    | none => fault

def numbered (cs : List Char) : Read Nat := do
  match decimal? cs with
  | some (g, rest) =>
    if 2 * (g + 1) ≤ (← get).size then
      modify fun st => { st with numbered := true, rest }
      known g
    else fault
  | none => fault

/-- The group that a name between single quotes or angle brackets means. -/
def quotedName (cs : List Char) : Read Nat :=
  if cs.head? == some '\'' then named ['\''] ['\''] true cs else named ['<'] ['>'] true cs

/-! ## Escapes and classes -/

/-- What an escape stands for. -/
inductive Escape where
  | literal (c : Char) (caseless : Bool)
  /-- The text of a class. -/
  | class_ (text : List Char) (caseless : Bool)
  | expr (e : XExpr)

/-- Hexadecimal digits: as many as `width`, or up to eight in braces. -/
def hexCode (width : Nat) (cs : List Char) : Read Char := do
  let fixed := (cs.take width).all fun c => (Text.Quoted.digit? 16 c).isSome
  let (digits, rest) ←
    if fixed && (cs.take width).length == width then pure (cs.take width, cs.drop width)
    else match cs with
      | '\x7b' :: more =>
        let ds := more.takeWhile fun c => (Text.Quoted.digit? 16 c).isSome
        match more.drop ds.length with
        | '\x7d' :: rest => if ds.isEmpty || ds.length > 8 then fault else pure (ds, rest)
        | _ => fault
      | _ => fault
  let n := digits.foldl (fun n c => n * 16 + (Text.Quoted.digit? 16 c).getD 0) 0
  goTo rest
  if Text.Quoted.isScalar n then return Char.ofNat n else fault

/-- The text of `\p` or `\P` behind its letter. -/
def propertyText (cs : List Char) : Read (List Char) := do
  match cs with
  | '\x7b' :: rest =>
    let name := rest.takeWhile (· != '\x7d')
    match rest.drop name.length with
    | _ :: after => goTo after; return '\x7b' :: name ++ ['\x7d']
    | [] => fault
  | c :: rest => goTo rest; return [c]
  | [] => fault

/-- The character of a one-letter escape. -/
def letterEscape? (c : Char) : Option Char :=
  if c == 'b' then some '\x08'
  else if c == 'e' then some '\x1b'
  else Pattern.Reader.letterEscape? c

/-- What the text behind a backslash stands for, in a class or outside. -/
def escape (inClass : Bool) : Read Escape := do
  let caseless := (← get).mode.caseless
  match ← ahead with
  | [] => fault
  | c :: rest =>
    goTo rest
    let word (a : Assertion) : Read Escape :=
      if rest.head? == some '\x7b' then fault else return .expr (.assertion a)
    if c.isDigit then return .expr (.backref (← numbered (c :: rest)))
    else if Pattern.Reader.isPerlLetter c then return .class_ ['\\', c] caseless
    else if c == 'h' then return .class_ "[0-9A-Fa-f]".toList false
    else if c == 'H' then return .class_ "[^0-9A-Fa-f]".toList false
    else if c == 'x' then return .literal (← hexCode 2 rest) caseless
    else if c == 'u' then return .literal (← hexCode 4 rest) caseless
    else if c == 'U' then return .literal (← hexCode 8 rest) caseless
    else if c == 'p' || c == 'P' then return .class_ ('\\' :: c :: (← propertyText rest)) caseless
    else if inClass then
      match letterEscape? c with
      | some l => return .literal l false
      | none =>
        if c.isAlpha && !"kAzBKG".toList.contains c then fault else return .literal c false
    else if c == 'k' then return .expr (.backref (← quotedName rest))
    else if c == 'A' then return .expr (.assertion .textStart)
    else if c == 'z' then return .expr (.assertion .textEnd)
    else if c == 'b' then word (.wordEdge false)
    else if c == 'B' then word (.notWordEdge false)
    else if c == '<' then return .expr (.assertion (.wordStart false))
    else if c == '>' then return .expr (.assertion (.wordEnd false))
    else if c == 'K' then return .expr .keepOut
    else if c == 'G' then return .expr .searchStart
    else match letterEscape? c with
      | some l => return .literal l false
      | none => if c.isAlpha then fault else return .literal c false

/-- A literal in the text of a class: what has a meaning there stands behind a backslash. -/
def classLiteral (c : Char) : List Char :=
  if XExpr.isSign c || c == '&' || c == '-' || c == '~' then ['\\', c] else [c]

/-- The text of a class from some point inside it on, in plain escapes; `depth` brackets are open. -/
def classText : Nat → Nat → Read (List Char)
  | 0, _ => fault
  | fuel + 1, depth => do
    match ← ahead with
    | [] => fault
    | '\\' :: rest =>
      goTo rest
      match ← escape true with
      | .literal c _ => return classLiteral c ++ (← classText fuel depth)
      | .class_ text _ => return text ++ (← classText fuel depth)
      | .expr _ => fault
    | c :: rest =>
      goTo rest
      if c == ']' && depth ≤ 1 then return [']']
      else
        let depth := if c == '[' then depth + 1 else if c == ']' then depth - 1 else depth
        return c :: (← classText fuel depth)

def bracketed : Read XExpr := do
  let taken (c : Char) : Read (List Char) := do
    match ← ahead with
    | d :: rest => if d == c then do goTo rest; return [c] else return []
    | [] => return []
  let caret ← taken '^'
  let first ← taken ']'
  let cs ← ahead
  let text ← classText (cs.length + 1) 1
  return .named ('[' :: caret ++ first ++ text) (← get).mode.caseless

/-! ## Repetitions -/

def isRepeatable : XExpr → Bool
  | .look _ _ _ | .empty | .assertion _ => false
  | _ => true

/-- A number as a bound from above: the greatest of 64 bits bounds nothing. -/
def bound (n : Nat) : Option Nat := if n == 0xFFFFFFFFFFFFFFFF then none else some n

/-- The bounds of a repetition behind its opening brace, and the text behind the closing one. -/
def bounds? (spaced : Bool) (cs : List Char) : Option ((Nat × Option Nat) × List Char) := do
  let skip (cs : List Char) : Option (List Char) := (skipGap spaced .none cs).toOption
  let cs ← skip cs
  let (least, cs) ← if cs.head? == some ',' then some (0, cs) else decimal? cs
  match ← skip cs with
  | '\x7d' :: rest => return ((least, bound least), rest)
  | ',' :: cs => do
    let cs ← skip cs
    let (most, cs) := match decimal? cs with
      | some (n, cs) => (bound n, cs)
      | none => (none, cs)
    match ← skip cs with
    | '\x7d' :: rest => return ((least, most), rest)
    | _ => none
  | _ => none

/-- The bounds of the repetition at the head of a text and the text behind it. -/
def quantifier? (spaced : Bool) (cs : List Char) : Option ((Nat × Option Nat) × List Char) :=
  match cs with
  | '?' :: rest => some ((0, some 1), rest)
  | '*' :: rest => some ((0, none), rest)
  | '+' :: rest => some ((1, none), rest)
  | '\x7b' :: rest => bounds? spaced rest
  | _ => none

/-- Repeats a pattern as the text ahead says: a question mark behind the bounds makes the repetition rare, a plus sign
makes it keep the first way to match. -/
def repeated (e : XExpr) : Read XExpr := do
  skip
  let st ← get
  match quantifier? st.mode.spaced st.rest with
  | none => return e
  | some ((min, max), rest) =>
    if !isRepeatable e then fault
    else
      goTo rest
      skip
      let rare ← match ← ahead with
        | '?' :: rest => do goTo rest; pure true
        | _ => pure false
      let e := XExpr.rep min max (rare == st.mode.swapGreed) e
      match ← ahead with
      | '+' :: rest => do goTo rest; return .atomic e
      | _ => return e

/-! ## Groups -/

/-- What the head of a group says. -/
inductive Head where
  | look (ahead negated : Bool)
  | atomic
  | capture (name : Option String)
  | backref (name : List Char)
  | condition
  | flags

/-- The head of a group behind its opening parenthesis, and what follows it. -/
def head (cs : List Char) : Read (Head × List Char) :=
  let nameAfter (opening closing : Char) (cs : List Char) : Read (Head × List Char) :=
    match name? [opening] [closing] cs with
    | some (name, rest) => return (.capture (some name), rest)
    | none => fault
  match cs with
  | '?' :: '=' :: rest => return (.look true false, rest)
  | '?' :: '!' :: rest => return (.look true true, rest)
  | '?' :: '<' :: '=' :: rest => return (.look false false, rest)
  | '?' :: '<' :: '!' :: rest => return (.look false true, rest)
  | '?' :: '<' :: rest => nameAfter '<' '>' ('<' :: rest)
  | '?' :: 'P' :: '<' :: rest => nameAfter '<' '>' ('<' :: rest)
  | '?' :: 'P' :: '=' :: rest => return (.backref rest, rest)
  | '?' :: '>' :: rest => return (.atomic, rest)
  | '?' :: '(' :: rest => return (.condition, rest)
  | '?' :: rest => return (.flags, rest)
  | cs => return (.capture none, cs)

/-- A mode with one flag set or cleared; all patterns know more than ASCII. -/
def setFlag (m : Mode) (on : Bool) (c : Char) : Option Mode :=
  if c == 'u' then if on then some m else none
  else if c == 'R' then none
  else m.set on c

/-- The flags of a group up to the colon or parenthesis that ends them; `size` characters were ahead in front of them,
and a minus sign has been read if `cleared`.  There has to be something in front of a parenthesis, and something besides
a minus sign. -/
def flags (size : Nat) : Nat → Bool → Read Char
  | 0, _ => fault
  | fuel + 1, cleared => do
    skip
    match ← ahead with
    | [] => fault
    | c :: rest =>
      let taken := size - (rest.length + 1)
      goTo rest
      if c == ')' then if taken == 0 || (cleared && taken == 1) then fault else return c
      else if c == ':' then if cleared && taken == 1 then fault else return c
      else if c == '-' then if cleared then fault else flags size fuel true
      else match setFlag (← get).mode (!cleared) c with
        | some m => do
          modify fun st => { st with mode := m }
          flags size fuel cleared
        | none => fault

/-- The most groups that may be open at once. -/
def maxNesting : Nat := 64

/-- The yes and the no branch of a condition's alternatives. -/
def branches : XExpr → XExpr × XExpr
  | .alt [yes, no] => (yes, no)
  | .alt (yes :: no) => (yes, .alt no)
  | e => (e, .empty)

def isEmpty : XExpr → Bool
  | .empty => true
  | _ => false

/-- The condition that a pattern is where it stands as one: a reference to a group asks whether it matched. -/
def asCondition : XExpr → XExpr
  | .backref g => .matched g
  | e => e

/-- The parts of a sequence as one pattern. -/
def sequence : List XExpr → XExpr
  | [] => .empty
  | [e] => e
  | es => .cat es

mutual
/-- The alternatives up to the end of the pattern or of the group, inside `depth` groups. -/
def alternatives : Nat → Nat → List XExpr → Read XExpr
  | 0, _, _ => fault
  | fuel + 1, depth, done => do
    let e ← branch fuel depth []
    skip
    match ← ahead with
    | '|' :: rest => do
      goTo rest
      alternatives fuel depth (e :: done)
    | _ =>
      if done.isEmpty then
        let st ← get
        if st.numbered && !st.names.isEmpty then fault else return e
      else return .alt (e :: done).reverse

/-- One alternative, with the parts read so far, the last of them first. -/
def branch : Nat → Nat → List XExpr → Read XExpr
  | 0, _, _ => fault
  | fuel + 1, depth, done => do
    skip
    let e? ← match (← ahead).head? with
      | some c => if c == '|' || c == ')' then pure none else some <$> (do repeated (← atom fuel depth))
      | none => pure none
    match e? with
    | some e => branch fuel depth (if isEmpty e then done else e :: done)
    | none => return sequence done.reverse

/-- What stands before a repetition; nothing where an alternative ends. -/
def atom : Nat → Nat → Read XExpr
  | 0, _ => fault
  | fuel + 1, depth => do
    skip
    let m := (← get).mode
    match ← ahead with
    | [] => return .empty
    | c :: rest =>
      if ['+', '*', '?', '|', ')'].contains c then return .empty
      else
        goTo rest
        if c == '.' then return .any m.dotAll
        else if c == '^' then return .assertion (if m.multiline then .lineStart false else .textStart)
        else if c == '$' then return .assertion (if m.multiline then .lineEnd false else .textEnd)
        else if c == '(' then group fuel (depth + 1)
        else if c == '[' then bracketed
        else if c == '\\' then
          match ← escape false with
          | .literal l caseless => return .literal l caseless
          | .class_ text caseless => return .named text caseless
          | .expr e => return e
        else return .literal c m.caseless

/-- A group behind its opening parenthesis. -/
def group : Nat → Nat → Read XExpr
  | 0, _ => fault
  | fuel + 1, depth => do
    if depth ≥ maxNesting then fault
    else
      skip
      let (h, rest) ← head (← ahead)
      goTo rest
      match h with
      | .look ahead negated => do
        let e ← alternatives fuel depth []
        close
        return .look ahead negated e
      | .atomic => do
        let e ← alternatives fuel depth []
        close
        return .atomic e
      | .capture name => do
        let index := (← get).groups + 1
        modify fun st =>
          { st with groups := index, names := match name with
            | some n => (n, index) :: st.names
            | none => st.names }
        let e ← alternatives fuel depth []
        close
        return .group index e
      | .backref cs => do
        return .backref (← named [] [')'] false cs)
      | .condition => condition fuel depth
      | .flags => do
        let old := (← get).mode
        if (← flags rest.length (rest.length + 1) false) == ')' then return .empty
        else
          let e ← alternatives fuel depth []
          match ← ahead with
          | ')' :: rest => do
            modify fun st => { st with mode := old, rest }
            return e
          | _ => fault

/-- A condition and its branches, behind the condition's opening parenthesis. -/
def condition : Nat → Nat → Read XExpr
  | 0, _ => fault
  | fuel + 1, depth => do
    let cs ← ahead
    let test ← match cs with
      | [] => fault
      | c :: _ =>
        if c.isDigit then XExpr.backref <$> numbered cs
        else if c == '\'' || c == '<' then XExpr.backref <$> quotedName cs
        else alternatives fuel depth []
    close
    let before := (← ahead).length
    let e ← alternatives fuel depth []
    if (← ahead).length == before then
      match test with
      | .backref g => do close; return .matched g
      | _ => fault
    else
      let (yes, no) := branches e
      close
      if isEmpty yes && isEmpty no then return asCondition test
      else return .cond (asCondition test) yes no
end

/-- A pattern that has been read: its tree, the number of its groups, group 0 among them, and the names of groups. -/
structure Parsed where
  expr : XExpr
  groups : Nat
  names : List (String × Nat)

def read (cs : List Char) : Except Fault Parsed := do
  let start : State := ⟨cs, {}, 0, [], false, (Text.Utf8.encode cs).length⟩
  let (e, st) ← (alternatives (4 * cs.length + 8) 0 []).run start
  if st.rest.isEmpty then return ⟨e, st.groups + 1, st.names⟩ else malformed

end Harvest.Pattern.Extended.Reader
