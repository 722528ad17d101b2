import Harvest.Css.Component
import Harvest.Markup.Document
import Harvest.Text.Blank
import Harvest.Text.Find
/-!
# Selectors of elements

What a selector says about an element, and which elements of a document it matches.  A selector of several parts is
read from its last part: that part describes the element itself, the others what is around it.
-/
namespace Harvest.Css

open Harvest.Markup (Document)

/-- How two neighbouring parts of a selector are related. -/
inductive Combinator where
  | descendant
  | child
  | nextSibling
  | laterSibling
  deriving DecidableEq, Repr

/-- How an attribute's value is compared. -/
inductive Comparison where
  | equal
  | includes
  | starts
  | ends
  | contains
  deriving DecidableEq, Repr

/-- Whether the case of letters counts in a comparison. -/
inductive CaseRule where
  | exact
  | ignore
  /-- It depends on the attribute: the case counts unless the element belongs to the main vocabulary. -/
  | ignoreInHtml
  deriving DecidableEq, Repr

/-- A test of an attribute's value. -/
structure ValueTest where
  comparison : Comparison
  value : String
  caseRule : CaseRule
  deriving DecidableEq, Repr

/-- Which siblings are counted, and from which end. -/
structure Counting where
  ofType : Bool
  fromEnd : Bool
  deriving DecidableEq, Repr

mutual
/-- One condition on an element. -/
inductive Simple where
  | any
  | type (name : String)
  | id (id : String)
  | class_ (name : String)
  | attr (name : String) (test : Option ValueTest)
  | root
  | empty
  /-- The position among the siblings is `a * n + b` for some natural `n`. -/
  | nth (counting : Counting) (a b : Int)
  | is (alternatives : List Complex)
  | not (alternatives : List Complex)
  /-- Something matches that is described from the element on. -/
  | has (relatives : List Complex)

/-- Conditions on an element and on what is around it. -/
inductive Complex where
  | compound (parts : List Simple)
  | after (left : Complex) (combinator : Combinator) (parts : List Simple)
  /-- The element that a description starts from. -/
  | anchor
end

/-- Alternatives. -/
abbrev Selector := List Complex

/-! ## Around an element -/

/-- The elements that an element is in, up to the first node that is none; the innermost first. -/
def parents (d : Document) (i : Nat) : List Nat := (d.ancestors i).takeWhile d.isElement

/-- The element siblings before an element, the nearest first. -/
def before (d : Document) (i : Nat) : List Nat := (d.preceding i).filter d.isElement

/-- The element siblings behind an element, the nearest first. -/
def behind (d : Document) (i : Nat) : List Nat := (d.following i).filter d.isElement

/-- The elements that an element can be related to from the left. -/
def Combinator.sources (d : Document) (i : Nat) : Combinator → List Nat
  | descendant => parents d i
  | child => (parents d i).take 1
  | nextSibling => (before d i).take 1
  | laterSibling => before d i

/-- The elements below an element, where everything between is an element too. -/
def below (d : Document) : Nat → Nat → List Nat
  | 0, _ => []
  | fuel + 1, i => ((d.children i).filter d.isElement).flatMap fun j => j :: below d fuel j

/-- The elements that a description from an element can end at. -/
def reachable (d : Document) (i : Nat) : List Nat :=
  below d d.size i ++ (behind d i).flatMap fun j => j :: below d d.size j

/-! ## Conditions -/

/-- A text in the case in which it is compared. -/
def cased (ignoreCase : Bool) (cs : List Char) : List Char := if ignoreCase then cs.map Char.toLower else cs

/-- The words of a text between the characters of a class. -/
def words (isSpace : Char → Bool) (cs : List Char) : List (List Char) :=
  (Text.splitAt ' ' (cs.map fun c => if isSpace c then ' ' else c)).filter (!·.isEmpty)

/-- Does a value pass a test?  Nothing contains the empty text. -/
def ValueTest.holds (t : ValueTest) (ignoreCase : Bool) (value : String) : Bool :=
  let v := cased ignoreCase value.toList
  let s := cased ignoreCase t.value.toList
  match t.comparison with
  | .equal => v == s
  | .includes => (words Token.isSpace v).contains s
  | .starts => !s.isEmpty && s.isPrefixOf v
  | .ends => !s.isEmpty && s.isSuffixOf v
  | .contains => !s.isEmpty && Text.occurs s v

/-- Does the element belong to the main vocabulary? -/
def isHtml (d : Document) (i : Nat) : Bool := (d.name? i).any fun n => n.space == .html

/-- A name as it is compared with those of an element: in lower case in the main vocabulary. -/
def comparedName (d : Document) (i : Nat) (name : String) : String :=
  if isHtml d i then String.ofList (name.toList.map Char.toLower) else name

/-- Does the element have an attribute that passes a test, if there is one? -/
def hasAttr (d : Document) (i : Nat) (name : String) (test : Option ValueTest) : Bool :=
  match d.attr? i (comparedName d i name) with
  | none => false
  | some value =>
    test.all fun t =>
      t.holds (match t.caseRule with
        | .exact => false
        | .ignore => true
        | .ignoreInHtml => isHtml d i) value

/-- The position of an element among its siblings, from one on. -/
def position (d : Document) (i : Nat) (c : Counting) : Nat :=
  let siblings := if c.fromEnd then behind d i else before d i
  1 + (if c.ofType then siblings.filter fun j => d.name? j == d.name? i else siblings).length

/-- Is `n` one of the numbers `a * k + b`?  None is so far from `b` that the distance does not fit into 32 bits. -/
def isTerm (a b : Int) (n : Nat) : Bool :=
  let d := (n : Int) - b
  d < 0x80000000 && if a == 0 then d == 0 else d % a == 0 && 0 ≤ d / a

/-- Is the node right below the document? -/
def isRoot (d : Document) (i : Nat) : Bool := (d.parent? i).any fun p => d.data p == .document

/-- Does the element have neither text nor elements? -/
def isEmpty (d : Document) (i : Nat) : Bool :=
  !(d.children i).any fun j => (d.data j).isElement || (d.data j).isText

mutual
def Simple.holds (d : Document) (anchor : Option Nat) : Simple → Nat → Bool
  | .any, _ => true
  | .type name, i => (d.name? i).any fun n => n.word == comparedName d i name
  | .id id, i => d.attr? i "id" == some id
  | .class_ name, i => (d.attr? i "class").any fun v => (words Text.isBlank v.toList).contains name.toList
  | .attr name test, i => hasAttr d i name test
  | .root, i => isRoot d i
  | .empty, i => isEmpty d i
  | .nth c a b, i => isTerm a b (position d i c)
  | .is cs, i => anyHolds d anchor cs i
  | .not cs, i => !anyHolds d anchor cs i
  | .has cs, i => (reachable d i).any fun j => anyHolds d (some i) cs j

/-- Does the element match, with what is around it? -/
def Complex.holds (d : Document) (anchor : Option Nat) : Complex → Nat → Bool
  | .compound parts, i => allHold d anchor parts i
  | .after left c parts, i => allHold d anchor parts i && (c.sources d i).any fun j => left.holds d anchor j
  | .anchor, i => anchor == some i

def allHold (d : Document) (anchor : Option Nat) : List Simple → Nat → Bool
  | [], _ => true
  | s :: ss, i => s.holds d anchor i && allHold d anchor ss i

/-- Does the element match one of several? -/
def anyHolds (d : Document) (anchor : Option Nat) : List Complex → Nat → Bool
  | [], _ => false
  | c :: cs, i => c.holds d anchor i || anyHolds d anchor cs i
end

/-- Does a selector match a node?  Only elements are ever matched. -/
def selects (d : Document) (s : Selector) (i : Nat) : Bool := d.isElement i && anyHolds d none s i

end Harvest.Css
