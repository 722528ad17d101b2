import Harvest.Filter.Basic
import Harvest.Filter.Params
import Harvest.Filter.Template
import Harvest.Markup.Entity
import Harvest.Text.Blank
/-!
# Filters on text

Affixes, replacement of fixed texts, splitting and joining, trimming, slices, conversion to numbers, quoting, half-width
forms, character references and templates.
-/
namespace Harvest.Filter

open Harvest.Text (Numeral.int64? Numeral.nat64?)

def preadd (value : Value) (params : String) : Except FilterError Value :=
  value.mapStrings fun s => .ok (params ++ s)

def postadd (value : Value) (params : String) : Except FilterError Value :=
  value.mapStrings fun s => .ok (s ++ params)

/-- An integer parameter; `what` names it in the message. -/
def integerParam (what raw : String) : Except FilterError Int64 :=
  match Numeral.int64? (Text.trimBlank raw.toList) with
  | some n => .ok n
  | none => .error (.invalidParams (.integer what raw))

/-- What `replace` looks for, what it puts there, and how often; a negative count is no limit. -/
def replaceArgs (params : String) : Except FilterError (String × String × Int64) :=
  match splitParams params with
  | [find] => .ok (find, "", -1)
  | [find, with_] => .ok (find, with_, -1)
  | [find, with_, count] => do return (find, with_, ← integerParam "count" count)
  | _ => .error (.invalidParams (.replaceArity params))

def replace (value : Value) (params : String) : Except FilterError Value := do
  let (find, with_, count) ← replaceArgs params
  value.mapStrings fun s =>
    let cs := s.toList
    .ok (String.ofList (if count < 0 then Text.replaceAll find.toList with_.toList cs
      else Text.replaceFirst find.toList with_.toList (min count.toInt.toNat (cs.length + 1)) cs))

/-- The pieces of one trimmed string: none of an empty one, and each character where the separator is empty. -/
def splitString (sep s : String) : List String :=
  let cs := Text.trimBlank s.toList
  if cs.isEmpty then []
  else if sep.isEmpty then cs.map fun c => String.ofList [c]
  else (Text.splitOn sep.toList cs).map String.ofList

def split (value : Value) (params : String) : Except FilterError Value :=
  match value with
  | .string s => .ok (.strings (splitString params s))
  | .strings ss => .ok (.array (ss.map fun s => .strings (splitString params s)))
  | other => .ok other

/-- The strings of a list joined, the empty ones left out; other values stay. -/
def join (value : Value) (params : String) : Except FilterError Value :=
  match value.stringItems? with
  | some ss =>
    .ok (.string (String.ofList (Text.join params.toList ((ss.filter (!·.isEmpty)).map String.toList))))
  | none => .ok value

def trim (value : Value) (params : String) : Except FilterError Value :=
  let class_ := params.toList
  value.mapStrings fun s => .ok (String.ofList (Text.trimBy class_.contains s.toList))

def trimspace (value : Value) (_ : String) : Except FilterError Value :=
  value.mapStrings fun s => .ok (Text.trim s)

/-- The characters from `start` up to but not including `stop`, or up to the end. -/
def slice (start : Nat) (stop : Option Nat) (s : String) : Except FilterError String :=
  let cs := s.toList
  let stop := stop.getD cs.length
  if start > stop || stop > cs.length then .error (.invalidParams (.sliceRange start stop cs.length))
  else .ok (String.ofList ((cs.drop start).take (stop - start)))

/-- An index of `substr`. -/
def sliceIndex (raw : List Char) : Except FilterError Nat :=
  match Numeral.nat64? (Text.trimBlank raw) with
  | some n => .ok n
  | none => .error (.invalidParams (.sliceIndex (String.ofList raw)))

def substr (value : Value) (params : String) : Except FilterError Value :=
  match Text.splitAt ',' params.toList with
  | [start] => do
    let start ← sliceIndex start
    value.mapStrings (slice start none)
  | [start, stop] => do
    let start ← sliceIndex start
    let stop ← sliceIndex stop
    value.mapStrings (slice start (some stop))
  | _ => .ok value

/-- A string as an integer; the strings of a list that are none count as zero. -/
def intval (value : Value) (_ : String) : Except FilterError Value :=
  match value with
  | .string s =>
    match Numeral.int64? s.toList with
    | some n => .ok (.int n)
    | none => .error (.conversion (.integer s))
  | .strings ss => .ok (.ints (ss.map fun s => (Numeral.int64? s.toList).getD 0))
  | other => .ok other

/-- A string as a floating-point number; the strings of a list that are none count as zero. -/
def floatval (value : Value) (_ : String) : Except FilterError Value :=
  match value with
  | .string s =>
    match Decimal.read? s.toList with
    | some x => .ok (.float x)
    | none => .error (.conversion (.number s))
  | .strings ss => .ok (.floats (ss.map fun s => (Decimal.read? s.toList).getD (.zero false)))
  | other => .ok other

def wraphtml (value : Value) (params : String) : Except FilterError Value :=
  if params.isEmpty then .error (.invalidParams .noTag)
  else value.mapStrings fun s => .ok ("<" ++ params ++ ">" ++ s ++ "</" ++ params ++ ">")

/-- The half-width form of a full-width character. -/
def halfWidth (c : Char) : Char :=
  let n := c.toNat
  if n == 0x3000 then ' ' else if 0xFF01 ≤ n && n ≤ 0xFF5E then Char.ofNat (n - 0xFEE0) else c

def tosbc (value : Value) (_ : String) : Except FilterError Value :=
  value.mapStrings fun s => .ok (String.ofList (s.toList.map halfWidth))

/-- The character with a code, if there is one. -/
def scalar? (n : Nat) : Option (List Char) := if Text.Quoted.isScalar n then some [Char.ofNat n] else none

/-- The number that digits of a base denote. -/
def digits? (base : Nat) (cs : List Char) : Option Nat :=
  if cs.isEmpty then none
  else cs.foldl (fun acc c => acc.bind fun n => (Text.Quoted.digit? base c).map (n * base + ·)) (some 0)

/-- What the inside of a character reference stands for: a decimal or hexadecimal code or a name. -/
def reference? : List Char → Option (List Char)
  | '#' :: 'x' :: cs => (digits? 16 cs).bind scalar?
  | '#' :: 'X' :: cs => (digits? 16 cs).bind scalar?
  | '#' :: cs => (digits? 10 cs).bind scalar?
  | cs => Markup.Entity.find? cs

/-- A text with its character references resolved: those between an ampersand and the next semicolon, with no other
ampersand between.  What stands for nothing stays. -/
def unescapeText : List Char → List Char
  | [] => []
  | c :: cs =>
    if c == '&' then
      match cs.dropWhile (fun d => d != ';' && d != '&') with
      | ';' :: _ =>
        let name := cs.takeWhile fun d => d != ';' && d != '&'
        match reference? name with
        | some text => text ++ unescapeText (cs.drop (name.length + 1))
        | none => c :: unescapeText cs
      | _ => c :: unescapeText cs
    else c :: unescapeText cs
termination_by cs => cs.length
decreasing_by all_goals (simp only [List.length_cons, List.length_drop]; omega)

def unescape (value : Value) (_ : String) : Except FilterError Value :=
  value.mapStrings fun s => .ok (String.ofList (unescapeText s.toList))

/-- The character reference of a character with a meaning in markup. -/
def escapeChar (c : Char) : List Char :=
  if c == '&' then "&amp;".toList
  else if c == '<' then "&lt;".toList
  else if c == '>' then "&gt;".toList
  else if c == '"' then "&quot;".toList
  else if c == '\'' then "&#x27;".toList
  else [c]

def escape (value : Value) (_ : String) : Except FilterError Value :=
  value.mapStrings fun s => .ok (String.ofList (s.toList.flatMap escapeChar))

def quote (value : Value) (_ : String) : Except FilterError Value :=
  value.mapStrings fun s => .ok (Text.Quoted.quote s)

def unquote (value : Value) (_ : String) : Except FilterError Value :=
  value.mapStrings fun s => match Text.Quoted.unquote s with
    | .ok t => .ok t
    | .error f => .error (.conversion (.unquote s f))

/-- The value in a template; a list of strings gives a list, in which empty strings stay empty. -/
def sprintf (value : Value) (params : String) : Except FilterError Value :=
  match value with
  | .strings ss => do
    return .strings (← ss.mapM fun s => if s.isEmpty then .ok s else Template.expand params [some (.string s)])
  | other => do return .string (← Template.expand params [some other])

/-- The fields of a record in a template; the parameters after the template name them. -/
def sprintfmap (value : Value) (params : String) : Except FilterError Value :=
  match value with
  | .map fields =>
    match splitParams params with
    | template :: key :: keys => do
      return .string (← Template.expand template ((key :: keys).map fun k => Fields.find? k fields))
    | _ => .error (.invalidParams .noKeys)
  | other => .error (.unsupported (.notMap other.kind))

end Harvest.Filter
