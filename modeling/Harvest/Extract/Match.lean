import Harvest.Error
import Harvest.Pattern.Basic
/-!
# Pattern selectors

A pattern selector takes the first match of a pattern in the text of its context.
-/
namespace Harvest.Extract

def patternKey (engine : Pattern.Engine) (pattern : String) : String := engine.mark ++ pattern

def compilePattern (engine : Pattern.Engine) (pattern : String) : Except ExtractError Pattern.Regex :=
  (Pattern.Regex.compile engine pattern).mapError fun f => .selectorSyntax (.pattern engine pattern f)

/-- The texts of the groups of the first match. -/
def firstMatch (r : Pattern.Regex) (text : String) : Except ExtractError (Option (List String)) :=
  (r.firstMatch text).mapError fun
    | .exhausted l => .decode (.patternMatch l)
    | .inverted => .panic .inverted

end Harvest.Extract
