import Harvest.Text.Find
/-!
# Filter expressions

`name(params)|name|…`: the calls of a chain.  Parameters run up to the first closing parenthesis that the end or a bar
follows, so `split(|)` and `replace(()` are one call each.  Whatever is no call is passed over.
-/
namespace Harvest.Filter

/-- A filter's name and the text between its parentheses. -/
structure Call where
  name : String
  params : String
  deriving DecidableEq, Repr

namespace Call

def isNameChar (c : Char) : Bool :=
  ('a' ≤ c && c ≤ 'z') || ('A' ≤ c && c ≤ 'Z') || ('0' ≤ c && c ≤ '9') || c == '-' || c == '_'

/-- The parameters behind an opening parenthesis and the text behind the call. -/
def params? : List Char → Option (List Char × List Char)
  | [] => none
  | [c] => if c == ')' then some ([], []) else none
  | c :: d :: rest =>
    if c == ')' && d == '|' then some ([], rest)
    else (params? (d :: rest)).map fun p => (c :: p.1, p.2)

/-- What may follow a name at the head of a text: the parameters of a call and the text behind it. -/
def tail? : List Char → Option (List Char × List Char)
  | [] => some ([], [])
  | '|' :: rest => some ([], rest)
  | '(' :: rest => params? rest
  | _ => none

def scan : Nat → List Char → List Call
  | 0, _ => []
  | fuel + 1, cs =>
    let cs := cs.dropWhile (!isNameChar ·)
    if cs.isEmpty then []
    else
      let name := cs.takeWhile isNameChar
      let rest := cs.dropWhile isNameChar
      match tail? rest with
      | some (params, rest) => ⟨String.ofList name, String.ofList params⟩ :: scan fuel rest
      | none => scan fuel rest

def parse (expr : String) : List Call := scan expr.length expr.toList

def render (c : Call) : String := if c.params.isEmpty then c.name else c.name ++ "(" ++ c.params ++ ")"

end Call

end Harvest.Filter
