import Harvest.Error
/-!
# Filters on the strings of a value

Most filters say what happens to one string and work on a list of them item by item.  `Value.mapStrings` is that rule;
`Value.mapStringsM` is the same rule for filters that act on a state as they go.
-/
namespace Harvest

namespace Value

mutual
/-- A value with its strings rewritten, those of lists and of lists inside lists too; other values stay. -/
def mapStringsM {m : Type → Type} [Monad m] (f : String → m String) : Value → m Value
  | .string s => do return .string (← f s)
  | .strings ss => do return .strings (← ss.mapM f)
  | .array items => do return .array (← mapItemsM f items)
  | v => pure v

/-- The items of a list with their strings rewritten, from first to last. -/
def mapItemsM {m : Type → Type} [Monad m] (f : String → m String) : List Value → m (List Value)
  | [] => pure []
  | v :: vs => do
    let w ← mapStringsM f v
    return w :: (← mapItemsM f vs)
end

/-- `mapStringsM` for a filter that only reads its string; the first string it fails on decides. -/
def mapStrings (f : String → Except FilterError String) (v : Value) : Except FilterError Value := mapStringsM f v

end Value

end Harvest
