import Harvest.Error
import Harvest.Text.Blank
/-!
# Templates with verbs

`%v`, `%-8s`, `%06.2f`: a percent sign, flags, a width, a precision and a letter.  `parse` reads a template into pieces
and `render` puts the arguments in: one for each verb in order, `<nil>` for an argument that is missing from a record,
and a note for a verb without any.
-/
namespace Harvest.Filter.Template

/-- What a verb asks for. -/
structure Verb where
  left : Bool
  zeros : Bool
  width : Option Nat
  precision : Option Nat
  letter : Char
  deriving DecidableEq, Repr

/-- A part of a template. -/
inductive Piece where
  | literal (c : Char)
  | verb (v : Verb)
  /-- A percent sign whose verb the template ends in. -/
  | unfinished
  deriving DecidableEq, Repr

/-- The characters that may stand between the percent sign and the width. -/
def isFlag (c : Char) : Bool := c == '-' || c == '0' || c == '+' || c == ' ' || c == '#'

/-- The number that digits at the head of a text denote, if it is below 2^64, and the rest. -/
def number (cs : List Char) : Option Nat × List Char :=
  (Text.Numeral.nat64? (cs.takeWhile Text.Numeral.isDigit), cs.dropWhile Text.Numeral.isDigit)

/-- The verb behind a percent sign and the rest of the template, or nothing if the template ends in it. -/
def verb? (cs : List Char) : Option (Verb × List Char) :=
  let flags := cs.takeWhile isFlag
  let (width, rest) := number (cs.dropWhile isFlag)
  let (precision, rest) := match rest with
    | '.' :: r => let (p, r) := number r; (some (p.getD 0), r)
    | r => (none, r)
  match rest with
  | [] => none
  | c :: rest => some (⟨flags.contains '-', flags.contains '0', width, precision, c⟩, rest)

def pieces : Nat → List Char → List Piece
  | 0, _ => []
  | _ + 1, [] => []
  | fuel + 1, c :: cs =>
    if c != '%' then .literal c :: pieces fuel cs
    else match cs with
      | '%' :: rest => .literal '%' :: pieces fuel rest
      | _ => match verb? cs with
        | none => [.unfinished]
        | some (v, rest) => .verb v :: pieces fuel rest

def parse (template : String) : List Piece := pieces template.length template.toList

/-- The number that a value is or that its string denotes. -/
def numeric? : Value → Option Binary64
  | .int n => some (.ofInt n.toInt)
  | .float x => some x
  | .string s => Decimal.read? (Text.trimBlank s.toList)
  | _ => none

/-- A number with the decimals that a verb asks for. -/
structure Decimals where
  places : Nat
  number : Binary64
  deriving DecidableEq, Repr

/-- What a verb makes a decimal of: a number under `f`. -/
def decimals? (v : Verb) (value : Value) : Option Decimals :=
  if v.letter == 'f' || v.letter == 'F' then (numeric? value).map (⟨v.precision.getD 6, ·⟩) else none

/-- The most decimals that a number is written with. -/
def maxPlaces : Nat := 65535

/-- The text of an argument under a verb, before padding. -/
def argumentText (v : Verb) (value : Value) : Except FilterError String :=
  match decimals? v value with
  | some ⟨places, x⟩ => if places > maxPlaces then .error (.panic .overlong) else .ok (Decimal.fixed places x)
  | none =>
    if v.letter == 'd' then
      match value with
      | .float x => .ok (Text.Numeral.ofInt x.toInt64.toInt)
      | _ => .ok value.toText
    else if v.letter == 'q' then .ok (Text.Quoted.quote value.toText)
    else .ok value.toText

/-- How many characters of padding bring a text to a width. -/
def fillLength (width : Option Nat) (length : Nat) : Nat := width.getD 0 - length

/-- The most characters that one repetition of a character makes.  That there is memory for the texts themselves is
taken for granted. -/
def maxLength : Nat := 0x8000000000000000 - 1

/-- A text padded to a verb's width: spaces on the right or the left, or zeros on the left. -/
def pad (v : Verb) (text : List Char) : Except FilterError (List Char) :=
  let fill := fillLength v.width text.length
  if fill > maxLength then .error (.panic .overlong)
  else if v.left then .ok (text ++ List.replicate fill ' ')
  else .ok (List.replicate fill (if v.zeros then '0' else ' ') ++ text)

/-- The text of pieces with the arguments in their order. -/
def render : List Piece → List (Option Value) → Except FilterError (List Char)
  | [], _ => .ok []
  | .literal c :: ps, args => do return c :: (← render ps args)
  | .unfinished :: _, _ => .ok "%!(NOVERB)".toList
  | .verb v :: ps, [] => do return "%!".toList ++ v.letter :: ("(MISSING)".toList ++ (← render ps []))
  | .verb v :: ps, arg :: args => do
    let text ← match arg with
      | some value => argumentText v value
      | none => .ok "<nil>"
    return (← pad v text.toList) ++ (← render ps args)

/-- A template with its arguments put in. -/
def expand (template : String) (args : List (Option Value)) : Except FilterError String := do
  return String.ofList (← render (parse template) args)

end Harvest.Filter.Template
