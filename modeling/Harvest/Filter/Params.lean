import Harvest.Text.Find
/-!
# Parameters of a filter

Parameters are divided by a separator, usually a comma.  A backslash right before a separator takes its meaning away
and goes away itself.
-/
namespace Harvest.Filter

/-- Joins each piece that ends in a backslash with the piece after it, a separator in place of the backslash. -/
def regroup (sep : Char) : List (List Char) → List (List Char)
  | [] => []
  | p :: rest =>
    if p.getLast? == some '\\' then
      match regroup sep rest with
      | [] => [p]
      | q :: qs => (p.dropLast ++ sep :: q) :: qs
    else p :: regroup sep rest

def splitParamsBy (sep : Char) (cs : List Char) : List (List Char) := regroup sep (Text.splitAt sep cs)

/-- The parameters of a string, divided by commas. -/
def splitParams (params : String) : List String :=
  (splitParamsBy ',' params.toList).map String.ofList

end Harvest.Filter
