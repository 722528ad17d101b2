/-!
# Names of elements and attributes

Elements belong to one of three vocabularies.  The sets of element names that the rules of parsing refer to stand here.
-/
namespace Harvest.Markup

/-- The vocabulary that an element belongs to. -/
inductive Space where
  | html
  | svg
  | mathml
  deriving DecidableEq, Repr, Inhabited

/-- An element's name. -/
structure Name where
  space : Space
  word : String
  deriving DecidableEq, Repr, Inhabited

/-- The vocabulary that an attribute belongs to; most belong to none. -/
inductive AttrSpace where
  | plain
  | xmlns
  | xlink
  | xml
  deriving DecidableEq, Repr, Inhabited

/-- An attribute. -/
structure Attr where
  space : AttrSpace
  name : String
  value : String
  deriving DecidableEq, Repr, Inhabited

def Attr.plain (name value : String) : Attr := ⟨.plain, name, value⟩

/-- An attribute's name as it is written. -/
def Attr.written (a : Attr) : String :=
  match a.space with
  | .plain => a.name
  | .xmlns => if a.name == "xmlns" then a.name else "xmlns:" ++ a.name
  | .xlink => "xlink:" ++ a.name
  | .xml => "xml:" ++ a.name

/-- The group in which an attribute is sorted. -/
def Attr.rank (a : Attr) : Nat :=
  match a.space with
  | .plain => 0
  | .xmlns => if a.name == "xmlns" then 1 else 4
  | .xlink => 2
  | .xml => 3

/-- Attributes are kept by group and name. -/
def Attr.precedes (a b : Attr) : Bool := a.rank < b.rank || (a.rank == b.rank && a.name ≤ b.name)

/-- Attributes in the order in which an element keeps them. -/
def Attr.sorted (as : List Attr) : List Attr := as.mergeSort Attr.precedes

namespace Name

def html (word : String) : Name := ⟨.html, word⟩

/-- Is this an element of the main vocabulary with one of some words? -/
def isAny (words : List String) (n : Name) : Bool := n.space == .html && words.contains n.word

/-- Is this the element of the main vocabulary with a word? -/
def is (word : String) (n : Name) : Bool := n.space == .html && n.word == word

def listed (lines : List String) : List String := lines.flatMap (·.splitOn " ")

def headings : List String := ["h1", "h2", "h3", "h4", "h5", "h6"]

def specialWords : List String := listed [
  "address applet area article aside base basefont bgsound blockquote body br button caption center col colgroup dd",
  "details dir div dl dt embed fieldset figcaption figure footer form frame frameset h1 h2 h3 h4 h5 h6 head header",
  "hgroup hr html iframe img input isindex li link listing main marquee menu meta nav noembed noframes noscript",
  "object ol p param plaintext pre script section select source style summary table tbody td template textarea tfoot",
  "th thead title tr track ul wbr xmp"]

/-- The elements that a misplaced end tag does not reach across. -/
def isSpecial (n : Name) : Bool := n.isAny specialWords

/-- The special elements that end the search for an open list item. -/
def isBarrier (n : Name) : Bool := n.isSpecial && !n.isAny ["address", "div", "p"]

/-- Is text inside the element read as in the main vocabulary, although the element belongs to mathematics? -/
def isMathText (n : Name) : Bool := n.space == .mathml && ["mi", "mo", "mn", "ms", "mtext"].contains n.word

/-- Is markup inside the element read as in the main vocabulary, although the element belongs to a drawing? -/
def isSvgHtml (n : Name) : Bool := n.space == .svg && ["foreignObject", "desc", "title"].contains n.word

/-! ## Scopes: the elements that hide what is open outside them -/

def endsScope (n : Name) : Bool :=
  n.isAny ["applet", "caption", "html", "table", "td", "th", "marquee", "object", "template"]
    || n.isMathText || n.isSvgHtml

def endsListScope (n : Name) : Bool := n.endsScope || n.isAny ["ol", "ul"]

def endsButtonScope (n : Name) : Bool := n.endsScope || n.is "button"

def endsTableScope (n : Name) : Bool := n.isAny ["html", "table", "template"]

def endsSelectScope (n : Name) : Bool := !n.isAny ["optgroup", "option"]

/-! ## Implied ends -/

def closesItself (n : Name) : Bool :=
  n.isAny ["dd", "dt", "li", "option", "optgroup", "p", "rb", "rp", "rt", "rtc"]

def closesItselfInTemplate (n : Name) : Bool :=
  n.closesItself || n.isAny ["caption", "colgroup", "tbody", "td", "tfoot", "th", "thead", "tr"]

/-! ## Parts of tables -/

def isTablePart (n : Name) : Bool := n.isAny ["table", "tbody", "tfoot", "thead", "tr"]

def isRowGroup (n : Name) : Bool := n.isAny ["tbody", "tfoot", "thead"]

def isRowGroupContext (n : Name) : Bool := n.isAny ["tbody", "tfoot", "thead", "template", "html"]

def isRowContext (n : Name) : Bool := n.isAny ["tr", "template", "html"]

def isCell (n : Name) : Bool := n.isAny ["td", "th"]

def isHeading (n : Name) : Bool := n.isAny headings

end Name

end Harvest.Markup
