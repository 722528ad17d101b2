import Harvest.Css.Selector
import Harvest.Text.Numeral
/-!
# Reading selectors

`Css.parse?` reads alternatives between commas.  Most text that is no selector spoils the whole; only inside `:is` and
`:where` does an alternative that cannot be read just match nothing.
-/
namespace Harvest.Css

def lower (s : String) : String := String.ofList (s.toList.map Char.toLower)

def isBlank (cs : List Component) : Bool := cs.all fun
  | .token .white => true
  | _ => false

/-- The components behind leading white space. -/
def skipWhite : List Component → List Component
  | .token .white :: cs => skipWhite cs
  | cs => cs

mutual
/-- Is there a token among the components that no text should have: a broken string or a bracket without partner? -/
def isBroken : List Component → Bool
  | [] => false
  | c :: cs => c.isBroken || isBroken cs

def Component.isBroken : Component → Bool
  | .token .broken => true
  | .token (.closing _) => true
  | .token _ => false
  | .function _ args => Css.isBroken args
  | .block _ inner => Css.isBroken inner
end

def splitCommas : List Component → List (List Component)
  | [] => [[]]
  | .token .comma :: cs => [] :: splitCommas cs
  | c :: cs =>
    match splitCommas cs with
    | [] => [[c]]
    | p :: ps => (c :: p) :: ps

/-! ## Conditions without selectors inside -/

/-- The attributes whose values are compared without regard to case in the main vocabulary. -/
def caselessAttrs : List String := [
  "accept", "accept-charset", "align", "alink", "axis", "bgcolor", "charset", "checked", "clear", "codetype", "color",
  "compact", "declare", "defer", "dir", "direction", "disabled", "enctype", "face", "frame", "hreflang", "http-equiv",
  "lang", "language", "link", "media", "method", "multiple", "nohref", "noresize", "noshade", "nowrap", "readonly",
  "rel", "rev", "rules", "scope", "scrolling", "selected", "shape", "target", "text", "type", "valign", "valuetype",
  "vlink"]

/-- The comparison that a token asks for. -/
def comparison? : Token → Option Comparison
  | .delim '=' => some .equal
  | .compare '~' => some .includes
  | .compare '^' => some .starts
  | .compare '$' => some .ends
  | .compare '*' => some .contains
  | _ => none

/-- The rule for the case of letters that stands behind a value. -/
def caseRule? (name : String) (cs : List Component) : Option CaseRule :=
  match skipWhite cs with
  | [] => some (if caselessAttrs.contains (lower name) then .ignoreInHtml else .exact)
  | .token (.ident flag) :: rest =>
    if !isBlank rest then none
    else if lower flag == "i" then some .ignore
    else if lower flag == "s" then some .exact
    else none
  | _ => none

/-- The value of a test behind its comparison. -/
def testValue? (cs : List Component) : Option (String × List Component) :=
  match skipWhite cs with
  | .token (.ident v) :: rest => some (v, rest)
  | .token (.string v) :: rest => some (v, rest)
  | _ => none

def attrCondition? (cs : List Component) : Option Simple :=
  match skipWhite cs with
  | .token (.ident name) :: rest =>
    match skipWhite rest with
    | [] => some (.attr name none)
    | .token t :: rest => do
      let comparison ← comparison? t
      let (value, rest) ← testValue? rest
      let caseRule ← caseRule? name rest
      return .attr name (some ⟨comparison, value, caseRule⟩)
    | _ => none
  | _ => none

/-- The number that `n-` and digits end in. -/
def dashDigits? (word : List Char) : Option Int :=
  match word with
  | 'n' :: '-' :: ds =>
    if ds.isEmpty then none else (Text.Numeral.natural? ds).map fun n => Token.clamp (-(n : Int))
  | _ => none

def unsignedConstant? (a : Int) (negative : Bool) (cs : List Component) : Option (Int × Int × List Component) :=
  match skipWhite cs with
  | .token (.number false (some b)) :: rest => some (a, if negative then -b else b, rest)
  | _ => none

/-- The constant behind the multiple of `n`, zero if there is none. -/
def constant? (a : Int) (cs : List Component) : Option (Int × Int × List Component) :=
  match skipWhite cs with
  | .token (.delim '+') :: rest => unsignedConstant? a false rest
  | .token (.delim '-') :: rest => unsignedConstant? a true rest
  | .token (.number true (some b)) :: rest => some (a, b, rest)
  | _ => some (a, 0, cs)

/-- What `n` is multiplied with is `a`; `word` is `n` with what is joined to it. -/
def multiple? (a : Int) (word : String) (cs : List Component) : Option (Int × Int × List Component) :=
  match lower word with
  | "n" => constant? a cs
  | "n-" => unsignedConstant? a true cs
  | w => (dashDigits? w.toList).map fun b => (a, b, cs)

/-- The numbers of a progression and what is behind it. -/
def progression? (cs : List Component) : Option (Int × Int × List Component) :=
  match skipWhite cs with
  | .token (.number _ (some b)) :: rest => some (0, b, rest)
  | .token (.dimension (some a) word) :: rest => multiple? a word rest
  | .token (.delim '+') :: .token (.ident word) :: rest => multiple? 1 word rest
  | .token (.ident word) :: rest =>
    if lower word == "even" then some (2, 0, rest)
    else if lower word == "odd" then some (2, 1, rest)
    else match word.toList with
      | '-' :: w => multiple? (-1) (String.ofList w) rest
      | _ => multiple? 1 word rest
  | _ => none

/-- A condition on the position among the siblings. -/
def nth? (counting : Counting) (cs : List Component) : Option Simple :=
  match progression? cs with
  | some (a, b, rest) => if isBlank rest then some (.nth counting a b) else none
  | none => none

/-- The condition of being first as siblings are counted. -/
def first (ofType fromEnd : Bool) : Simple := .nth ⟨ofType, fromEnd⟩ 0 1

/-- The conditions that a name behind a colon stands for. -/
def named? (name : String) : Option (List Simple) :=
  match lower name with
  | "first-child" => some [first false false]
  | "last-child" => some [first false true]
  | "only-child" => some [first false false, first false true]
  | "first-of-type" => some [first true false]
  | "last-of-type" => some [first true true]
  | "only-of-type" => some [first true false, first true true]
  | "root" | "scope" => some [.root]
  | "empty" => some [.empty]
  | _ => none

/-- How a name with a progression counts. -/
def counting? (name : String) : Option Counting :=
  match lower name with
  | "nth-child" => some ⟨false, false⟩
  | "nth-last-child" => some ⟨false, true⟩
  | "nth-of-type" => some ⟨true, false⟩
  | "nth-last-of-type" => some ⟨true, true⟩
  | _ => none

/-- A combinator and the components behind it. -/
def combinator? (cs : List Component) : Option (Combinator × List Component) :=
  match skipWhite cs with
  | .token (.delim '>') :: rest => some (.child, rest)
  | .token (.delim '+') :: rest => some (.nextSibling, rest)
  | .token (.delim '~') :: rest => some (.laterSibling, rest)
  | [] => none
  | rest => if cs.length == rest.length then none else some (.descendant, rest)

/-- The type of an element at the head of its description. -/
def typed : List Component → List Simple × List Component
  | .token (.ident name) :: rest => ([.type name], rest)
  | .token (.delim '*') :: rest => ([.any], rest)
  | cs => ([], cs)

/-! ## Selectors

A reader fails with the components that it has not looked at.  Inside `:has` there must not be another one. -/

mutual
/-- Conditions at the head of components, none if there are none; `fuel` bounds how many steps are taken. -/
def conditions (inHas : Bool) : Nat → List Component → Except (List Component) (List Simple × List Component)
  | 0, _ => .error []
  | fuel + 1, cs =>
    match condition inHas fuel cs with
    | .error rest => .error rest
    | .ok none => .ok ([], cs)
    | .ok (some (ss, rest)) =>
      match conditions inHas fuel rest with
      | .error rest => .error rest
      | .ok (more, rest) => .ok (ss ++ more, rest)

def condition (inHas : Bool) : Nat → List Component →
    Except (List Component) (Option (List Simple × List Component))
  | 0, _ => .error []
  | fuel + 1, cs =>
    match cs with
    | .token (.hash id true) :: rest => .ok (some ([.id id], rest))
    | .token (.delim '.') :: .token (.ident name) :: rest => .ok (some ([.class_ name], rest))
    | .token (.delim '.') :: rest => .error (rest.drop 1)
    | .block '[' inner :: rest =>
      match attrCondition? inner with
      | some s => .ok (some ([s], rest))
      | none => .error rest
    | .token .colon :: .token (.ident name) :: rest =>
      match named? name with
      | some ss => .ok (some (ss, rest))
      | none => .error rest
    | .token .colon :: .function name args :: rest =>
      match applied? inHas fuel name args with
      | some s => .ok (some ([s], rest))
      | none => .error rest
    | .token .colon :: .token .colon :: rest => .error (rest.drop 1)
    | .token .colon :: rest => .error (rest.drop 1)
    | _ => .ok none

/-- The condition of a name with arguments. -/
def applied? (inHas : Bool) : Nat → String → List Component → Option Simple
  | 0, _, _ => none
  | fuel + 1, name, args =>
    match counting? name with
    | some counting => nth? counting args
    | none =>
      match lower name with
      | "is" | "where" => (forgiven? inHas fuel (splitCommas args)).map .is
      | "not" => (alternatives? inHas false fuel (splitCommas args)).map .not
      | "has" => if inHas then none else (alternatives? true true fuel (splitCommas args)).map .has
      | _ => none

/-- The description of an element behind its left part, up to the end. -/
def description (inHas : Bool) (build : List Simple → Complex) : Nat → List Component →
    Except (List Component) Complex
  | 0, _ => .error []
  | fuel + 1, cs =>
    let (type, rest) := typed (skipWhite cs)
    match conditions inHas fuel rest with
    | .error rest => .error rest
    | .ok (ss, rest) =>
      if (type ++ ss).isEmpty then .error rest
      else
        let left := build (type ++ ss)
        match combinator? rest with
        | some (c, rest) => description inHas (.after left c) fuel rest
        | none => if isBlank rest then .ok left else .error rest

/-- One alternative; a relative one starts with a combinator, or below the element that it is about. -/
def alternative (inHas relative : Bool) : Nat → List Component → Except (List Component) Complex
  | 0, _ => .error []
  | fuel + 1, cs =>
    if relative then
      match combinator? (skipWhite cs) with
      | some (c, rest) => description inHas (.after .anchor c) fuel rest
      | none => description inHas (.after .anchor .descendant) fuel cs
    else description inHas .compound fuel cs

/-- Alternatives that all must be readable. -/
def alternatives? (inHas relative : Bool) : Nat → List (List Component) → Option Selector
  | 0, _ => none
  | _ + 1, [] => some []
  | fuel + 1, p :: ps =>
    match alternative inHas relative fuel p, alternatives? inHas relative fuel ps with
    | .ok c, some cs => some (c :: cs)
    | _, _ => none

/-- The alternatives that are readable, unless what is behind a fault is broken. -/
def forgiven? (inHas : Bool) : Nat → List (List Component) → Option Selector
  | 0, _ => none
  | _ + 1, [] => some []
  | fuel + 1, p :: ps =>
    match alternative inHas false fuel p, forgiven? inHas fuel ps with
    | .ok c, some cs => some (c :: cs)
    | .error rest, some cs => if isBroken rest then none else some cs
    | _, none => none
end

def parse? (text : String) : Option Selector :=
  let cs := text.toList
  alternatives? false false (4 * cs.length + 8) (splitCommas (Component.ofText cs))

end Harvest.Css
