import Harvest.Pattern.Fault
import Harvest.Text.Quoted
import Harvest.Value
/-!
# What can go wrong

The causes that stop an evaluation (`ExtractError`), a filter call (`FilterError`) and a registration
(`RegistryError`), each with its message.  What a library or the system says of what it refuses is its own wording,
which a message takes in as it is (`Wording`).
-/
namespace Harvest

/-- What the libraries and the system say of what they refuse. -/
structure Wording where
  /-- Of a JSON text that is no spec. -/
  specJson : String → String
  /-- Of a YAML text that is no spec. -/
  specYaml : String → String
  /-- Of a body that is no JSON text. -/
  jsonBody : List UInt8 → String
  /-- Of a text that is no selector of elements. -/
  css : String → String
  /-- Of a pattern that cannot be searched. -/
  pattern : Pattern.Engine → String → Pattern.Fault → String
  /-- Of a search that exceeds a limit. -/
  exhausted : Pattern.Limit → String
  /-- Of a file that cannot be read as a text. -/
  file : String → String

/-- Decimal text in a message. -/
private def shown (n : Nat) : String := Text.Numeral.ofNat n

/-- A text in back quotes in a message. -/
private def ticked (s : String) : String := "`" ++ s ++ "`"

/-- Why a text is no JSON path. -/
inductive PathFault where
  | emptySegment
  | textAfterIndex
  | unclosedBracket
  | notAnIndex
  | indexTooLarge
  deriving DecidableEq, Repr

def PathFault.message : PathFault → String
  | emptySegment => "empty segment"
  | textAfterIndex => "text after index"
  | unclosedBracket => "unclosed " ++ ticked "["
  | notAnIndex => "index is not a non-negative integer"
  | indexTooLarge => "index too large"

/-- What a selector did not lead to. -/
inductive Missing where
  | selector (shown : String)
  | attr (name shown : String)
  | content (shown : String)
  | pattern (key : String)
  /-- The steps of a JSON path up to the one that failed. -/
  | path (steps : List String)
  deriving DecidableEq, Repr

def Missing.message : Missing → String
  | selector s => "selector " ++ ticked s
  | attr name s => "attribute " ++ ticked name ++ " of " ++ ticked s
  | content s => "content of " ++ ticked s
  | pattern key => key
  | path steps => "json path " ++ String.join steps

/-- What a spec node lacks. -/
inductive SchemaFault where
  | noTemplate (tag : String)
  | manyTemplates (tag : String) (count : Nat)
  | noNamedChild
  deriving DecidableEq, Repr

def SchemaFault.message : SchemaFault → String
  | noTemplate tag => "type " ++ ticked tag ++ " needs one subitem"
  | manyTemplates tag n => "type " ++ ticked tag ++ " needs exactly one subitem, got " ++ shown n
  | noNamedChild => "type `map` needs at least one named subitem"

/-- What a text or a JSON value could not be read as. -/
inductive DecodeFault where
  | notInteger (text : String)
  | notNumber (text : String)
  | notBoolean (text : String)
  | jsonNotInteger (j : Json)
  | jsonNotNumber (j : Json)
  | jsonNotBoolean (j : Json)
  | jsonNotString (j : Json)
  | jsonNotArray (j : Json)
  | noItems (j : Json)
  | noText (j : Json)
  | emptyEmbedded
  | notEmbedded (preview : String)
  | pageKind (text : String)
  | specJson (text : String)
  | specYaml (text : String)
  | jsonBody (body : List UInt8)
  | patternMatch (limit : Pattern.Limit)
  | fileExtension (extension path : String)
  deriving Repr

/-- A text in double quotes, for a message. -/
def inQuotes (s : String) : String :=
  String.ofList ('"' :: (s.toList.flatMap fun c =>
    if c == '"' then ['\\', '"'] else if c == '\\' then ['\\', '\\'] else if c == '\n' then ['\\', 'n']
    else if c == '\r' then ['\\', 'r'] else if c == '\t' then ['\\', 't'] else if c.toNat == 0 then ['\\', '0']
    else if Text.Quoted.isControl c then
      '\\' :: 'u' :: '\x7b' :: (Nat.toDigits 16 c.toNat ++ ['\x7d'])
    else [c]) ++ ['"'])

def DecodeFault.message (w : Wording) : DecodeFault → String
  | notInteger t => ticked t ++ " is not an integer"
  | notNumber t => ticked t ++ " is not a number"
  | notBoolean t => ticked t ++ " is not a boolean"
  | jsonNotInteger j => j.render ++ " is not an integer"
  | jsonNotNumber j => j.render ++ " is not a number"
  | jsonNotBoolean j => j.render ++ " is not a boolean"
  | jsonNotString j => j.render ++ " is not a string"
  | jsonNotArray j => j.render ++ " is not an array"
  | noItems j => "type `array` needs a json array, got " ++ j.render
  | noText j => "jsonparse needs text, got " ++ j.render
  | emptyEmbedded => "embedded json is empty"
  | notEmbedded preview => "text is not a json object or array: " ++ preview
  | pageKind t => "unknown page kind " ++ ticked t
  | specJson t => "spec json: " ++ w.specJson t
  | specYaml t => "spec yaml: " ++ w.specYaml t
  | jsonBody body => "json body: " ++ w.jsonBody body
  | patternMatch l => "pattern match failed: " ++ w.exhausted l
  | fileExtension e path => "unknown spec file extension " ++ inQuotes e ++ " for " ++ path

/-- Why a selector cannot be read. -/
inductive SelectorFault where
  | path (raw : String) (fault : PathFault)
  | operator (raw : String)
  | css (raw : String)
  | pattern (engine : Pattern.Engine) (pattern : String) (fault : Pattern.Fault)
  deriving DecidableEq, Repr

def SelectorFault.message (w : Wording) : SelectorFault → String
  | path raw f => "json path " ++ ticked raw ++ ": " ++ f.message
  | operator raw => "bad selector operator " ++ ticked raw
  | css raw => ticked raw ++ ": " ++ w.css raw
  | pattern engine p f => engine.mark ++ p ++ ": " ++ w.pattern engine p f

/-- What is never handed to anybody as an error: it takes down what it happens to. -/
inductive Panic where
  /-- More padding or more decimals than can be written. -/
  | overlong
  /-- A text was to be taken from a span that ends before it starts. -/
  | inverted
  deriving DecidableEq, Repr

/-- Why an evaluation has no value. -/
inductive ExtractError where
  | nodeNotFound (what : Missing)
  | schema (fault : SchemaFault)
  | decode (fault : DecodeFault)
  | selectorSyntax (fault : SelectorFault)
  /-- A filter refused the value it saw. -/
  | invalidContent (filter : String) (value : Value)
  | unsupportedType (tag page : String)
  | depthExceeded (limit : Nat)
  | unreadable (path : String)
  /-- The document has no element left that could be written out. -/
  | rootless
  /-- A filter or a search panicked. -/
  | panic (cause : Panic)
  deriving Repr

namespace ExtractError

def pathSyntax (raw : String) (fault : PathFault) : ExtractError := selectorSyntax (.path raw fault)

/-- The message of an error; a panic, which nobody is handed, has none. -/
def message (w : Wording) : ExtractError → String
  | nodeNotFound what => "node not found: " ++ what.message
  | schema f => "schema error: " ++ f.message
  | decode f => "decode error: " ++ f.message w
  | selectorSyntax f => "selector syntax error: " ++ f.message w
  | invalidContent filter _ => "invalid content rejected by " ++ ticked filter
  | unsupportedType tag page => "unsupported type " ++ ticked tag ++ " for " ++ page ++ " document"
  | depthExceeded n => "spec tree deeper than " ++ shown n ++ " levels"
  | unreadable path => w.file path
  | rootless | panic _ => ""

/-- The errors that end the whole evaluation and not only the node they arise at. -/
def isFatal : ExtractError → Bool
  | depthExceeded _ | rootless | panic _ => true
  | _ => false

/-- The errors that are never handed to anybody: they take down what asked for the evaluation. -/
def isPanic : ExtractError → Bool
  | rootless | panic _ => true
  | _ => false

end ExtractError

/-- What is wrong with a filter's parameters. -/
inductive ParamFault where
  | integer (what raw : String)
  | replaceArity (params : String)
  | sliceIndex (raw : String)
  | sliceRange (start stop length : Nat)
  | pattern (engine : Pattern.Engine) (pattern : String) (fault : Pattern.Fault)
  /-- Replacing exceeded a limit. -/
  | replacement (limit : Pattern.Limit)
  /-- Matching exceeded a limit. -/
  | evaluation (limit : Pattern.Limit)
  | noTag
  | noKeys
  | pagingArity
  | pagingInteger (raw : String)
  | pagingStep
  | pagingSpan (start stop : Int64)
  | pagingOffset (page : Int)
  | pagingTemplate (page : Int) (count : Nat)
  | size (raw : String)
  | escapingPath (path : String)
  | noFileName (url : String)
  | noStorePath
  deriving Repr

/-- The most pages that one call of `paging` yields. -/
def maxPages : Nat := 10000

def ParamFault.message (w : Wording) : ParamFault → String
  | integer what raw => what ++ " must be an integer, got " ++ ticked raw
  | replaceArity p => "replace takes 1-3 params: " ++ p
  | sliceIndex raw => "substr index " ++ ticked raw
  | sliceRange a b n => "substr(" ++ shown a ++ "," ++ shown b ++ ") out of range for length " ++ shown n
  | pattern engine p f => w.pattern engine p f
  | replacement l => w.exhausted l
  | evaluation l => "pattern could not be evaluated: " ++ w.exhausted l
  | noTag => "wraphtml needs a tag name"
  | noKeys => "sprintfmap needs a template and at least one key"
  | pagingArity => "paging needs a start and an end"
  | pagingInteger raw => "paging param " ++ ticked raw ++ " is not an integer"
  | pagingStep => "paging step must be at least 1"
  | pagingSpan a b =>
    "paging(" ++ Text.Numeral.ofInt a.toInt ++ "," ++ Text.Numeral.ofInt b.toInt ++ ") spans more than "
      ++ shown maxPages ++ " pages"
  | pagingOffset page => "paging offset for page " ++ Text.Numeral.ofInt page ++ " overflows"
  | pagingTemplate page n =>
    "page " ++ Text.Numeral.ofInt page ++ " has no template in a list of " ++ shown n
  | size raw => "size " ++ ticked raw ++ " is not a non-negative integer"
  | escapingPath p => "store path " ++ ticked p ++ " escapes the root"
  | noFileName url => "no file name in " ++ ticked url
  | noStorePath => "store needs a path"

/-- The kinds of values that a filter does not work on. -/
inductive ShapeFault where
  | notMap (kind : String)
  | pagingItem (kind : String)
  | pagingValue (kind : String)
  deriving DecidableEq, Repr

def ShapeFault.message : ShapeFault → String
  | notMap kind => "sprintfmap needs a map, got " ++ kind
  | pagingItem kind => "paging template is " ++ kind
  | pagingValue kind => "paging needs a string or list, got " ++ kind

/-- The texts that a filter cannot convert. -/
inductive ConversionFault where
  | integer (text : String)
  | number (text : String)
  | unquote (text : String) (fault : Text.Quoted.Fault)
  deriving DecidableEq, Repr

def ConversionFault.message : ConversionFault → String
  | integer t => ticked t ++ " is not an integer"
  | number t => ticked t ++ " is not a number"
  | unquote t f => "cannot unquote " ++ ticked t ++ ": " ++ f.message

/-- Why a filter call has no value. -/
inductive FilterError where
  /-- A validator refuses the value. -/
  | invalidContent
  | notFound (name : String)
  | invalidParams (fault : ParamFault)
  | unsupported (fault : ShapeFault)
  | conversion (fault : ConversionFault)
  /-- Fetching or storing failed, or a host's own filter did. -/
  | external (text : String)
  | panic (cause : Panic)
  deriving Repr

/-- The message of an error; a panic has none. -/
def FilterError.message (w : Wording) : FilterError → String
  | invalidContent => "invalid content"
  | notFound name => "filter " ++ ticked name ++ " not found"
  | invalidParams f => "invalid parameters: " ++ f.message w
  | unsupported f => "unsupported value: " ++ f.message
  | conversion f => "conversion failed: " ++ f.message
  | external t => t
  | panic _ => ""

/-- Why a filter is not registered. -/
inductive RegistryError where
  | alreadyRegistered (name : String)
  | notRegistered (name : String)
  deriving DecidableEq, Repr

def RegistryError.message : RegistryError → String
  | alreadyRegistered name => "filter with name '" ++ name ++ "' is already registered"
  | notRegistered name => "filter with name '" ++ name ++ "' does not exist (therefore cannot be replaced)"

end Harvest
