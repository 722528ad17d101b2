import Harvest.Filter.Basic
import Harvest.Pattern.Basic
import Harvest.Text.Blank
import Harvest.Url.Basic
/-!
# Validators

A validator hands its value on as it is or refuses it.  Most look at the strings of a value: at a string itself, at each
string of a list, and at the strings among the items of a mixed list; other values pass.
-/
namespace Harvest.Filter

/-- Do all texts pass?  The first that does not pass, or cannot be judged, decides. -/
def allPass (test : String → Except FilterError Bool) : List String → Except FilterError Bool
  | [] => .ok true
  | s :: ss => do
    if ← test s then allPass test ss else return false

/-- The value if its strings pass a test that may fail. -/
def tryCheck (test : String → Except FilterError Bool) (value : Value) : Except FilterError Value := do
  let passes ← match value with
    | .string s => test s
    | .strings ss => allPass test ss
    | .array items => allPass test (items.filterMap Value.string?)
    | _ => .ok true
  if passes then return value else throw .invalidContent

/-- The value if its strings pass a test. -/
def check (test : String → Bool) (value : Value) : Except FilterError Value := tryCheck (fun s => .ok (test s)) value

/-- Is something there?  Numbers and truth values always are. -/
def isPresent : Value → Bool
  | .string s => !s.isEmpty
  | .strings ss => !ss.isEmpty && ss.all (!·.isEmpty)
  | .ints ns => !ns.isEmpty
  | .floats xs => !xs.isEmpty
  | .bools bs => !bs.isEmpty
  | .array items => !items.isEmpty
  | .map fields => !fields.isEmpty
  | .json j => match j with
    | .null => false
    | _ => true
  | .int _ | .float _ | .bool _ => true

def required (value : Value) (_ : String) : Except FilterError Value :=
  if isPresent value then .ok value else .error .invalidContent

/-- The characters before the at sign of an address. -/
def isMailboxChar (c : Char) : Bool := c.isAlphanum || ".!#$%&'*+/=?^_`\x7b|\x7d~-".toList.contains c

/-- A label of a domain: at most 63 letters, digits and hyphens, no hyphen first or last. -/
def isDomainLabel (l : List Char) : Bool :=
  !l.isEmpty && l.length ≤ 63 && l.all (fun c => c.isAlphanum || c == '-')
    && l.head?.all Char.isAlphanum && l.getLast?.all Char.isAlphanum

/-- A mailbox, an at sign and a domain of two labels or more. -/
def isEmail (s : String) : Bool :=
  let cs := s.toList
  let mailbox := cs.takeWhile isMailboxChar
  match cs.drop mailbox.length with
  | '@' :: domain =>
    let ls := Text.splitAt '.' domain
    !mailbox.isEmpty && 2 ≤ ls.length && ls.all isDomainLabel
  | _ => false

/-- The size in a validator's parameters. -/
def sizeParam (params : String) : Except FilterError Nat :=
  match Text.Numeral.nat64? (Text.trimBlank params.toList) with
  | some n => .ok n
  | none => .error (.invalidParams (.size params))

/-- Compares the number of characters with the parameter. -/
def sized (test : Nat → Nat → Bool) (value : Value) (params : String) : Except FilterError Value := do
  let size ← sizeParam params
  check (fun s => test s.length size) value

/-- Asks whether a pattern matches, and refuses the value unless the answer is `wanted`. -/
def matching (engine : Pattern.Engine) (wanted : Bool) (value : Value) (params : String) :
    Except FilterError Value := do
  let pattern ← (Pattern.Regex.compile engine params).mapError fun f => .invalidParams (.pattern engine params f)
  tryCheck (fun s => do
    let found ← (pattern.isMatch s).mapError fun
      | .exhausted l => FilterError.invalidParams (.evaluation l)
      | .inverted => FilterError.panic .inverted
    return found == wanted) value

/-- A validator whose parameters do not count. -/
def plainCheck (test : String → Bool) (value : Value) (_ : String) : Except FilterError Value := check test value

/-- Do all characters of a text that has some belong to a set? -/
def allIn (set : Unicode.CharSet) (s : String) : Bool := !s.isEmpty && s.toList.all set.contains

def hasLineBreak (s : String) : Bool := s.toList.any fun c => c == '\n' || c == '\r'

end Harvest.Filter
