import Harvest.Filter.Paging
import Harvest.Filter.Registry
import Harvest.Filter.Rewriting
import Harvest.Filter.Validator
/-!
# The built-in filters

The table of all filters that a registry starts with: those that change values, and the validators, whose names start
with an underscore.
-/
namespace Harvest.Filter

/-- A reading of the clock, in seconds and in milliseconds since the start of 1970. -/
structure Clock where
  seconds : Int64
  millis : Int64

def transforms (σ : Type) (clock : Clock) : List (Filter σ) := [
  .stateless "preadd" "Add a prefix" "preadd(prefix)" preadd,
  .stateless "postadd" "Add a suffix" "postadd(suffix)" postadd,
  .stateless "replace" "Replace literal text" "replace(find,replace,count)" replace,
  .stateless "split" "Split a string into a list on a separator" "split(-)" split,
  .stateless "join" "Join a list into a string, dropping empty items" "join(-)" join,
  .stateless "trim" "Strip the given characters from both ends" "trim(;)" trim,
  .stateless "trimspace" "Strip surrounding whitespace" "trimspace" trimspace,
  .stateless "substr" "Character slice from start (inclusive) to end (exclusive)" "substr(0,5)" substr,
  .stateless "intval" "Convert to an integer" "intval" intval,
  .stateless "floatval" "Convert to a decimal" "floatval" floatval,
  .stateless "hrefreplace" "Rewrite href attributes; $2 is the captured href value" "hrefreplace(data-url=\"$2\")"
    hrefreplace,
  .stateless "regexpreplace" "Regular expression replace (backtracking engine)" "regexpreplace(^A$,B,start,count)"
    regexpreplace,
  .stateless "wraphtml" "Wrap the value in an HTML tag" "wraphtml(a)" wraphtml,
  .stateless "tosbc" "Convert full-width punctuation and letters to half-width" "tosbc" tosbc,
  .stateless "unescape" "Decode HTML entities" "unescape" unescape,
  .stateless "escape" "Encode HTML special characters" "escape" escape,
  .stateless "sprintf" "Format the value into a template" "sprintf(%s)" sprintf,
  .stateless "sprintfmap"
    "Format map values into a template; the value must be a map and the remaining params name its keys"
    "sprintfmap(%v-%v,a,b)" sprintfmap,
  .stateless "unixtime" "UNIX timestamp (seconds)" "unixtime" fun _ _ => .ok (.int clock.seconds),
  .stateless "unixmill" "UNIX timestamp (milliseconds)" "unixmill" fun _ _ => .ok (.int clock.millis),
  .stateless "paging" "Expand a template over a page range; params are start page, end page and an optional step"
    "paging(1,10,1)" Paging.paging,
  .stateless "quote" "Wrap in double quotes, escaping as needed" "quote" quote,
  .stateless "unquote" "Remove surrounding double quotes and decode escapes" "unquote" unquote]

def validators (σ : Type) : List (Filter σ) := [
  .stateless "_required" "Must not be empty" "_required" required,
  .stateless "_email" "E-mail address" "_email" (plainCheck isEmail),
  .stateless "_username" "User name (letters, digits, CJK)" "_username" (plainCheck (allIn Unicode.word)),
  .stateless "_singleline" "Single line of text" "_singleline" (plainCheck fun s => !s.isEmpty && !hasLineBreak s),
  .stateless "_mutiline" "Multi-line text" "_mutiline" (plainCheck fun s => !s.isEmpty),
  .stateless "_url" "URL" "_url" (plainCheck Url.isWebAddress),
  .stateless "_chinese" "Only Chinese characters" "_chinese" (plainCheck (allIn Unicode.han)),
  .stateless "_haschinese" "Contains Chinese characters" "_haschinese"
    (plainCheck fun s => s.toList.any Unicode.han.contains),
  .stateless "_minsize" "Minimum length" "_minsize(5)" (sized fun n size => n ≥ size),
  .stateless "_maxsize" "Maximum length" "_maxsize(5)" (sized fun n size => n ≤ size),
  .stateless "_size" "Exact length" "_size(5)" (sized fun n size => n == size),
  .stateless "_alpha" "ASCII letters" "_alpha" (plainCheck fun s => s.toList.all Char.isAlpha),
  .stateless "_alphanum" "ASCII letters or digits" "_alphanum" (plainCheck fun s => s.toList.all Char.isAlphanum),
  .stateless "_numeric" "ASCII digits" "_numeric" (plainCheck fun s => s.toList.all Char.isDigit),
  .stateless "_match" "Matches a regular expression" "_match([a-z]+)" (matching .standard true),
  .stateless "_unmatch" "Does not match a regular expression" "_unmatch([a-z]+)" (matching .standard false),
  .stateless "_match2" "Matches a regular expression (backtracking engine, lookaround allowed)" "_match2([a-z]+)"
    (matching .extended true),
  .stateless "_unmatch2" "Does not match a regular expression (backtracking engine, lookaround allowed)"
    "_unmatch2([a-z]+)" (matching .extended false)]

/-- The registry of all built-in filters. -/
def builtin (σ : Type) (clock : Clock) : Registry σ :=
  (transforms σ clock ++ validators σ).foldl Registry.insert Registry.empty

end Harvest.Filter
