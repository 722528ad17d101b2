import Harvest.Json.Lexeme
/-!
# JSON texts as they are written

The tree of a JSON text, with its number lexemes, repeated field names and unpaired surrogate escapes, for the readers
that differ in what they make of them.  `Source.parse?` is that grammar; `Json.ofSource?` is the plain value, which
allows 127 levels, numbers of finite size and strings that are texts.
-/
namespace Harvest.Json

/-- A JSON text as written.  A string is `none` where its escapes make no text. -/
inductive Source where
  | null
  | bool (b : Bool)
  | number (n : Lexeme)
  | string (s : Option String)
  | array (items : List Source)
  | object (fields : List (Option String × Source))
  deriving Repr, Inhabited

namespace Source

def isSpace (c : Char) : Bool := c == ' ' || c == '\n' || c == '\t' || c == '\r'

def skip (cs : List Char) : List Char := cs.dropWhile isSpace

def hex? (c : Char) : Option Nat :=
  let n := c.toNat
  if 0x30 ≤ n && n ≤ 0x39 then some (n - 0x30)
  else if 0x41 ≤ n && n ≤ 0x46 then some (n - 0x37)
  else if 0x61 ≤ n && n ≤ 0x66 then some (n - 0x57)
  else none

/-- The value of four hexadecimal digits. -/
def hex4? (a b c d : Char) : Option Nat := do
  return (((← hex? a) * 16 + (← hex? b)) * 16 + (← hex? c)) * 16 + (← hex? d)

/-- The character of a one-letter escape. -/
def escaped? : Char → Option Char
  | '"' => some '"'
  | '\\' => some '\\'
  | '/' => some '/'
  | 'b' => some '\x08'
  | 'f' => some '\x0c'
  | 'n' => some '\n'
  | 'r' => some '\r'
  | 't' => some '\t'
  | _ => none

/-- The codes of a string up to its closing quote, and the text behind that.  The codes read so far stand in reverse
in front. -/
def codes? (acc : List Nat) : List Char → Option (List Nat × List Char)
  | [] => none
  | '"' :: rest => some (acc.reverse, rest)
  | '\\' :: 'u' :: a :: b :: c :: d :: rest =>
    match hex4? a b c d with
    | some n => codes? (n :: acc) rest
    | none => none
  | '\\' :: e :: rest =>
    match escaped? e with
    | some c => codes? (c.toNat :: acc) rest
    | none => none
  | c :: rest => if c.toNat < 0x20 || c == '\\' then none else codes? (c.toNat :: acc) rest

/-- The text of a list of codes; a pair of surrogates is one character, one alone is none. -/
def ofCodes (acc : List Char) : List Nat → Option (List Char)
  | [] => some acc.reverse
  | n :: rest =>
    if 0xD800 ≤ n && n < 0xDC00 then
      match rest with
      | m :: rest' =>
        if 0xDC00 ≤ m && m < 0xE000 then
          ofCodes (Char.ofNat (0x10000 + (n - 0xD800) * 0x400 + (m - 0xDC00)) :: acc) rest'
        else none
      | [] => none
    else if 0xDC00 ≤ n && n < 0xE000 then none
    else ofCodes (Char.ofNat n :: acc) rest

def string? (cs : List Char) : Option (Option String × List Char) :=
  (codes? [] cs).map fun p => ((ofCodes [] p.1).map String.ofList, p.2)

/-- The exponent of a number, if one follows. -/
def exponent? (cs : List Char) : Option (Option Int × List Char) :=
  match cs with
  | e :: rest =>
    if e == 'e' || e == 'E' then
      let (negative, rest) := match rest with
        | '-' :: r => (true, r)
        | '+' :: r => (false, r)
        | r => (false, r)
      let (ds, rest) := rest.span Text.Numeral.isDigit
      (Text.Numeral.natural? ds).map fun n => (some (if negative then -n else n), rest)
    else some (none, cs)
  | [] => some (none, cs)

def number? (negative : Bool) (cs : List Char) : Option (Source × List Char) := do
  let (whole, rest) := cs.span Text.Numeral.isDigit
  if whole.isEmpty || (whole.length > 1 && whole.head? == some '0') then none
  else
    let (part, rest) ← match rest with
      | '.' :: r =>
        let (part, r) := r.span Text.Numeral.isDigit
        if part.isEmpty then none else some (part, r)
      | r => some ([], r)
    let (e, rest) ← exponent? rest
    return (.number ⟨negative, whole, part, e⟩, rest)

/-- The text behind a word that it starts with. -/
def word? (word : List Char) (s : Source) (cs : List Char) : Option (Source × List Char) :=
  if word.isPrefixOf cs then some (s, cs.drop word.length) else none

mutual
/-- The value at the head of a text that starts with its first token. -/
def value? : Nat → List Char → Option (Source × List Char)
  | 0, _ => none
  | fuel + 1, cs =>
    match cs with
    | [] => none
    | '"' :: rest => (string? rest).map fun p => (.string p.1, p.2)
    | '[' :: rest =>
      match skip rest with
      | ']' :: rest => some (.array [], rest)
      | rest => (items? fuel rest).map fun p => (.array p.1, p.2)
    | '{' :: rest =>
      match skip rest with
      | '}' :: rest => some (.object [], rest)
      | rest => (fields? fuel rest).map fun p => (.object p.1, p.2)
    | '-' :: rest => number? true rest
    | 'n' :: _ => word? ['n', 'u', 'l', 'l'] .null cs
    | 't' :: _ => word? ['t', 'r', 'u', 'e'] (.bool true) cs
    | 'f' :: _ => word? ['f', 'a', 'l', 's', 'e'] (.bool false) cs
    | _ => number? false cs

/-- The items of an array from one of them on, with its end. -/
def items? : Nat → List Char → Option (List Source × List Char)
  | 0, _ => none
  | fuel + 1, cs =>
    match value? fuel cs with
    | none => none
    | some (item, rest) =>
      match skip rest with
      | ']' :: rest => some ([item], rest)
      | ',' :: rest => (items? fuel (skip rest)).map fun p => (item :: p.1, p.2)
      | _ => none

/-- The fields of an object from one of them on, with its end. -/
def fields? : Nat → List Char → Option (List (Option String × Source) × List Char)
  | 0, _ => none
  | fuel + 1, cs =>
    match cs with
    | '"' :: rest =>
      match string? rest with
      | none => none
      | some (name, rest) =>
        match skip rest with
        | ':' :: rest =>
          match value? fuel (skip rest) with
          | none => none
          | some (item, rest) =>
            match skip rest with
            | '}' :: rest => some ([(name, item)], rest)
            | ',' :: rest => (fields? fuel (skip rest)).map fun p => ((name, item) :: p.1, p.2)
            | _ => none
        | _ => none
    | _ => none
end

def parse? (cs : List Char) : Option Source :=
  match value? (cs.length + 1) (skip cs) with
  | some (s, rest) => if (skip rest).isEmpty then some s else none
  | none => none

end Source

mutual
/-- The value of a text of at most `depth` levels. -/
def ofSource? (depth : Nat) : Source → Option Json
  | .null => some .null
  | .bool b => some (.bool b)
  | .number l => l.number?.map .number
  | .string s => s.map .string
  | .array items =>
    match depth with
    | 0 => none
    | d + 1 => (itemsOfSource? d items).map .array
  | .object fields =>
    match depth with
    | 0 => none
    | d + 1 => (fieldsOfSource? d [] fields).map .object

def itemsOfSource? (depth : Nat) : List Source → Option (List Json)
  | [] => some []
  | s :: rest =>
    match ofSource? depth s with
    | none => none
    | some j => (itemsOfSource? depth rest).map (j :: ·)

/-- The fields read so far with those of an object; of two of one name the later one counts. -/
def fieldsOfSource? (depth : Nat) (acc : Fields Json) : List (Option String × Source) → Option (Fields Json)
  | [] => some acc
  | (name, s) :: rest =>
    match name, ofSource? depth s with
    | some n, some j => fieldsOfSource? depth (acc.insert n j) rest
    | _, _ => none
end

/-- The most levels of arrays and objects that a JSON text may have. -/
def maxLevels : Nat := 127

def parse? (cs : List Char) : Option Json := (Source.parse? cs).bind (ofSource? maxLevels)

def read? (s : String) : Option Json := parse? s.toList

end Harvest.Json
