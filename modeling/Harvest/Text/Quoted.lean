import Harvest.Text.Utf8
/-!
# Quoted text

The double-quoted form of a text and the way back.  `quote` escapes quotes, backslashes and control characters;
`unquote` also reads texts without the outer quotes, byte escapes and octal escapes, and refuses a quote that no
backslash announces.
-/
namespace Harvest.Text.Quoted

/-- The digit `d < 16` in lower case. -/
def hexDigit (d : Nat) : Char :=
  if d < 10 then Char.ofNat (0x30 + d) else Char.ofNat (0x57 + d)

/-- The last `width` hexadecimal digits of a number. -/
def hexDigits : Nat → Nat → List Char
  | 0, _ => []
  | width + 1, n => hexDigits width (n / 16) ++ [hexDigit (n % 16)]

/-- The control characters U+0000 to U+001F and U+007F to U+009F. -/
def isControl (c : Char) : Bool := c.toNat < 0x20 || (0x7F ≤ c.toNat && c.toNat ≤ 0x9F)

/-- The letter after the backslash, for the characters that have one. -/
def letter? (c : Char) : Option Char :=
  if c == '"' then some '"' else if c == '\\' then some '\\'
  else match c.toNat with
    | 7 => some 'a'
    | 8 => some 'b'
    | 9 => some 't'
    | 10 => some 'n'
    | 11 => some 'v'
    | 12 => some 'f'
    | 13 => some 'r'
    | _ => none

def encodeChar (c : Char) : List Char :=
  match letter? c with
  | some l => ['\\', l]
  | none =>
    if c.toNat < 0x20 || c.toNat == 0x7F then '\\' :: 'x' :: hexDigits 2 c.toNat
    else if isControl c then '\\' :: 'u' :: hexDigits 4 c.toNat
    else [c]

def encode (cs : List Char) : List Char := '"' :: (cs.flatMap encodeChar ++ ['"'])

/-- Why a text is not the inside of a quoted form. -/
inductive Fault where
  | bareQuote
  | trailingBackslash
  | badByte
  | badUnicode
  | badCodePoint
  | badOctal
  | octalRange
  | unknownEscape (c : Char)
  | notText
  deriving DecidableEq, Repr

def Fault.message : Fault → String
  | bareQuote => "unescaped quote"
  | trailingBackslash => "trailing backslash"
  | badByte => "bad \\x escape"
  | badUnicode => "bad unicode escape"
  | badCodePoint => "invalid code point"
  | badOctal => "bad octal escape"
  | octalRange => "octal escape out of range"
  | unknownEscape c => "unknown escape \\" ++ c.toString
  | notText => "escapes do not form valid UTF-8"

/-- The value of a digit in a base up to sixteen. -/
def digit? (base : Nat) (c : Char) : Option Nat :=
  let n := c.toNat
  let d := if 0x30 ≤ n && n ≤ 0x39 then n - 0x30
    else if 0x41 ≤ n && n ≤ 0x46 then n - 0x37
    else if 0x61 ≤ n && n ≤ 0x66 then n - 0x57
    else base
  if d < base then some d else none

/-- Exactly `count` digits after the value `acc`, and the rest of the text. -/
def digits? (base : Nat) : Nat → Nat → List Char → Option (Nat × List Char)
  | 0, acc, cs => some (acc, cs)
  | _ + 1, _, [] => none
  | count + 1, acc, c :: cs => (digit? base c).bind fun d => digits? base count (acc * base + d) cs

/-- A number that is the code of a character. -/
def isScalar (n : Nat) : Bool := n < 0xD800 || (0xE000 ≤ n && n < 0x110000)

/-- The byte that a one-letter escape stands for. -/
def simpleEscape? : Char → Option UInt8
  | 'n' => some 10
  | 'r' => some 13
  | 't' => some 9
  | 'a' => some 7
  | 'b' => some 8
  | 'f' => some 12
  | 'v' => some 11
  | '\\' => some 0x5C
  | '"' => some 0x22
  | '\'' => some 0x27
  | _ => none

/-- The bytes of the escape that starts with the letter `c` after its backslash, and what follows the escape. -/
def escape (c : Char) (cs : List Char) : Except Fault (List UInt8 × List Char) :=
  match simpleEscape? c with
  | some b => .ok ([b], cs)
  | none =>
    if c == 'x' then
      match digits? 16 2 0 cs with
      | none => .error .badByte
      | some (n, rest) => .ok ([UInt8.ofNat n], rest)
    else if c == 'u' || c == 'U' then
      match digits? 16 (if c == 'u' then 4 else 8) 0 cs with
      | none => .error .badUnicode
      | some (n, rest) =>
        if isScalar n then .ok (Utf8.encodeChar (Char.ofNat n), rest) else .error .badCodePoint
    else
      match digit? 8 c with
      | none => .error (.unknownEscape c)
      | some hi =>
        match digits? 8 2 hi cs with
        | none => .error .badOctal
        | some (n, rest) => if n ≤ 0xFF then .ok ([UInt8.ofNat n], rest) else .error .octalRange

/-- The bytes of the inside of a quoted form. -/
def bytes : Nat → List Char → Except Fault (List UInt8)
  | 0, _ => .ok []
  | _ + 1, [] => .ok []
  | fuel + 1, c :: cs =>
    if c == '"' then .error .bareQuote
    else if c == '\\' then
      match cs with
      | [] => .error .trailingBackslash
      | e :: rest => do
        let (bs, rest) ← escape e rest
        return bs ++ (← bytes fuel rest)
    else do return Utf8.encodeChar c ++ (← bytes fuel cs)

/-- A text without one pair of double quotes around it. -/
def strip (cs : List Char) : List Char :=
  match cs with
  | '"' :: rest => if rest.getLast? == some '"' then rest.dropLast else cs
  | _ => cs

/-- The text that a quoted form, or the inside of one, stands for. -/
def decode (cs : List Char) : Except Fault (List Char) := do
  let inner := strip cs
  match Utf8.decode? (← bytes inner.length inner) with
  | some text => .ok text
  | none => .error .notText

/-- `encode` on a string. -/
def quote (s : String) : String := String.ofList (encode s.toList)

/-- `decode` on a string. -/
def unquote (s : String) : Except Fault String := (decode s.toList).map String.ofList

end Harvest.Text.Quoted
