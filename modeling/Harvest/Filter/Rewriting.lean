import Harvest.Filter.Textual
import Harvest.Pattern.Replace
/-!
# Filters that replace by patterns

`hrefreplace` puts a template in place of `href` attributes, `regexpreplace` in place of the matches of a pattern from a
character on.
-/
namespace Harvest.Filter

/-- An `href` attribute; group 1 is the quote, if there is one, and group 2 the value. -/
def hrefPattern : String := "(?i)href(?:\\s*)=(?:\\s*)(['\"]?)([^'\" ]*)\\1"

/-- A pattern of the extended grammar, with what is wrong with it as the filter's error. -/
def compiled (pattern : String) : Except FilterError Pattern.Regex :=
  (Pattern.Regex.compile .extended pattern).mapError fun f => .invalidParams (.pattern .extended pattern f)

/-- What replacing comes to, with what went wrong as the filter's error. -/
def ofMatch {α : Type} (r : Except Pattern.Failure α) : Except FilterError α :=
  r.mapError fun
    | .exhausted l => .invalidParams (.replacement l)
    | .inverted => .panic .inverted

def hrefreplace (value : Value) (params : String) : Except FilterError Value := do
  let pattern ← compiled hrefPattern
  value.mapStrings fun s => do
    let text := s.toList.toArray
    return String.ofList (← ofMatch (Pattern.replaceAll text (pattern.finderAll text params.toList)))

/-- The number in a parameter that may be missing. -/
def numberArg (what : String) (default : Int64) : Option String → Except FilterError Int64
  | some raw => integerParam what raw
  | none => .ok default

/-- Pattern, template, first character and number of replacements; a negative number is no limit. -/
def regexpreplace (value : Value) (params : String) : Except FilterError Value := do
  let args := splitParams params
  let start ← numberArg "start" 0 args[2]?
  let count ← numberArg "count" (-1) args[3]?
  let pattern ← compiled (args[0]?.getD "")
  if count == 0 then return value
  else
    let template := Pattern.template (args[1]?.getD "").toList
    let limit := if count < 0 then none else some count.toInt.toNat
    value.mapStrings fun s => do
      let text := s.toList.toArray
      let start := min start.toInt.toNat text.size
      return String.ofList (← ofMatch (Pattern.replaceFrom text (pattern.finder text template) start limit))

end Harvest.Filter
