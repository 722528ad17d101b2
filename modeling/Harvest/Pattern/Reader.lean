import Harvest.Pattern.Bracket
import Harvest.Pattern.Size
/-!
# Reading patterns

The grammar of patterns without lookaround and backreferences: literals and escapes, classes with set operations,
groups with names and flags, and repetitions.  `read` yields the tree, or the fault of a text that is no pattern, is
nested too deep or would be too large.
-/
namespace Harvest.Pattern.Reader

open Harvest.Unicode (CharSet)

/-! ## Parts of a sequence -/

/-- A pattern and how deep it is nested. -/
structure Nested where
  expr : Expr
  depth : Nat

/-- A part of a sequence; flags hold for what follows them and cannot be repeated. -/
inductive Item where
  | part (e : Nested)
  | flags

/-- The patterns of parts; flags stand for the empty one. -/
def Item.nested : Item → Nested
  | part e => e
  | flags => ⟨.empty, 0⟩

/-- How deep some patterns together are nested: several are one deeper than each of them. -/
def nesting (es : List Nested) : Nat :=
  let deepest := es.foldl (fun n e => max n e.depth) 0
  if es.length > 1 then deepest + 1 else deepest

/-- The sequence of the items read, the last of them first. -/
def sequence (items : List Item) : Nested :=
  let es := items.reverse.map Item.nested
  ⟨.seq (es.map Nested.expr), nesting es⟩

/-- The choice between alternatives, the last of them first. -/
def choice (es : List Nested) : Nested :=
  match es with
  | [e] => e
  | es => ⟨.choice (es.reverse.map Nested.expr), nesting es⟩

/-! ## Repetitions -/

/-- The number of a repetition, with blanks around it. -/
def count? (m : Mode) (cs : List Char) : Option Nat × List Char :=
  let cs := cs.dropWhile Unicode.space.contains
  let (ds, rest) := takeCounting m Char.isDigit cs.length cs
  let n := ds.foldl (fun n c => n * 10 + (c.toNat - 48)) 0
  (if ds.isEmpty || n ≥ 0x100000000 then none else some n, skip m (rest.dropWhile Unicode.space.contains))

/-- The bounds of a repetition behind its opening brace. -/
def bounds (m : Mode) (cs : List Char) : Except Fault ((Nat × Option Nat) × List Char) :=
  let (least, rest) := count? m (skip m cs)
  match rest with
  | ',' :: rest =>
    match skip m rest with
    | '\x7d' :: rest =>
      match least with
      | some a => .ok ((a, none), rest)
      | none => malformed
    | rest =>
      let (most, rest) := count? m rest
      match least, most, rest with
      | some a, some b, '\x7d' :: rest => if a ≤ b then .ok ((a, some b), rest) else malformed
      | _, _, _ => malformed
  | '\x7d' :: rest =>
    match least with
    | some a => .ok ((a, some a), rest)
    | none => malformed
  | _ => malformed

/-- Is a repetition to be as rare as possible?  A question mark behind it says so. -/
def lazyMark (cs : List Char) : Bool × List Char :=
  match cs with
  | '?' :: rest => (true, rest)
  | _ => (false, cs)

def repeatLast (items : List Item) (m : Mode) (min : Nat) (max : Option Nat) (rare : Bool) :
    Except Fault (List Item) :=
  match items with
  | .part e :: rest => .ok (.part ⟨.repeated min max (rare == m.swapGreed) e.expr, e.depth + 1⟩ :: rest)
  | _ => malformed

/-! ## Groups -/

/-- What the reader knows besides the place it is at: how many groups are open or closed, and their names. -/
structure State where
  groups : Nat
  names : List String

def isNameChar (first : Bool) (c : Char) : Bool :=
  c == '_' || if first then Unicode.alphabetic.contains c
    else c == '.' || c == '[' || c == ']' || Unicode.isAlphanumeric c

/-- A group's name up to its closing bracket. -/
def groupName (cs : List Char) : Except Fault (String × List Char) :=
  let name := cs.takeWhile (· != '>')
  match name, cs.drop name.length with
  | c :: more, '>' :: rest =>
    if isNameChar true c && more.all (isNameChar false) then .ok (String.ofList name, rest) else malformed
  | _, _ => malformed

/-- The flags of a group up to the colon or parenthesis that ends them.  `seen` holds those before; a minus sign has
been read if `cleared`. -/
def flags (m : Mode) (cleared : Bool) (seen : List Char) : List Char → Except Fault ((Mode × Char) × List Char)
  | [] => malformed
  | c :: rest =>
    if c == ':' || c == ')' then
      if seen.head? == some '-' then malformed else .ok ((m, c), rest)
    else if seen.contains c then malformed
    else if c == '-' then flags m true (c :: seen) rest
    else match m.set (!cleared) c with
      | some m => flags m cleared (c :: seen) rest
      | none => malformed

def isLookaround : List Char → Bool
  | '?' :: '=' :: _ => true
  | '?' :: '!' :: _ => true
  | '?' :: '<' :: '=' :: _ => true
  | '?' :: '<' :: '!' :: _ => true
  | _ => false

def namedGroup? : List Char → Option (List Char)
  | '?' :: 'P' :: '<' :: rest => some rest
  | '?' :: '<' :: rest => some rest
  | _ => none

mutual
/-- The alternatives up to the end of the pattern or of the group, inside `level` groups. -/
def alternatives (level : Nat) :
    Nat → Mode → State → List Nested → List Char → Except Fault (Nested × State × List Char)
  | 0, _, _, _, _ => malformed
  | fuel + 1, m, st, done, cs => do
    let (e, m, st, rest) ← branch level fuel m st [] cs
    match rest with
    | '|' :: rest => alternatives level fuel m st (e :: done) rest
    | rest => return (choice (e :: done), st, rest)

/-- One alternative, with the items read so far. -/
def branch (level : Nat) :
    Nat → Mode → State → List Item → List Char → Except Fault (Nested × Mode × State × List Char)
  | 0, _, _, _, _ => malformed
  | fuel + 1, m, st, items, cs =>
    let atom (e : Expr) (rest : List Char) := branch level fuel m st (.part ⟨e, 0⟩ :: items) rest
    let again (min : Nat) (max : Option Nat) (rest : List Char) := do
      let (rare, rest) := lazyMark rest
      branch level fuel m st (← repeatLast items m min max rare) rest
    match skip m cs with
    | [] => .ok (sequence items, m, st, [])
    | c :: rest =>
      if c == '|' || c == ')' then .ok (sequence items, m, st, c :: rest)
      else if c == '(' then group level fuel m st items (skip m rest)
      else if c == '[' then do
        let (s, depth, rest) ← bracketed m 0 (rest.length + 1) rest
        branch level fuel m st (.part ⟨.ofSet s, depth⟩ :: items) rest
      else if c == '?' then again 0 (some 1) rest
      else if c == '*' then again 0 none rest
      else if c == '+' then again 1 none rest
      else if c == '\x7b' then do
        let ((min, max), rest) ← bounds m rest
        again min max (skip m rest)
      else if c == '\\' then do
        match ← escape m rest with
        | (.literal l, rest) => atom (literal m l) rest
        | (.set s, rest) => atom (.ofSet s) rest
        | (.assertion a, rest) => atom (.assertion a) rest
      else if c == '.' then do atom (← dot m) rest
      else if c == '^' then atom (.assertion (if m.multiline then .lineStart m.crlf else .textStart)) rest
      else if c == '$' then atom (.assertion (if m.multiline then .lineEnd m.crlf else .textEnd)) rest
      else atom (literal m c) rest

/-- A group behind its opening parenthesis, and the alternative it stands in. -/
def group (level : Nat) :
    Nat → Mode → State → List Item → List Char → Except Fault (Nested × Mode × State × List Char)
  | 0, _, _, _, _ => malformed
  | fuel + 1, m, st, items, cs =>
    if isLookaround cs || level ≥ maxNesting then malformed
    else
      let inside (inner : Mode) (st : State) (index : Option Nat) (cs : List Char) :
          Except Fault (Nested × Mode × State × List Char) := do
        let (e, st, rest) ← alternatives (level + 1) fuel inner st [] cs
        match rest with
        | ')' :: rest =>
          let e := match index with
            | some i => ⟨.group i e.expr, e.depth + 1⟩
            | none => ⟨e.expr, e.depth + 1⟩
          branch level fuel m st (.part e :: items) rest
        | _ => malformed
      match namedGroup? cs with
      | some rest => do
        let (name, rest) ← groupName rest
        if st.names.contains name then malformed
        else inside m ⟨st.groups + 1, name :: st.names⟩ (some (st.groups + 1)) rest
      | none =>
        match cs with
        | '?' :: rest => do
          let ((inner, last), after) ← flags m false [] rest
          if last == ')' then
            if rest.head? == some ')' then malformed
            else branch level fuel inner st (.flags :: items) after
          else inside inner st none after
        | cs => inside m ⟨st.groups + 1, st.names⟩ (some (st.groups + 1)) cs
end

def read (cs : List Char) : Except Fault Expr := do
  let (e, _, rest) ← alternatives 0 (2 * cs.length + 2) {} ⟨0, []⟩ [] cs
  if !rest.isEmpty || e.depth > maxNesting then malformed
  else if !Size.fits e.expr then .error .oversized
  else return e.expr

end Harvest.Pattern.Reader
