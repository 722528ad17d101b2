import Harvest.Error
import Harvest.Markup.Document
/-!
# Text and markup of nodes

The text of a node is that of all texts below it.  Its markup is the canonical form: attributes in the order in which
an element keeps them, no end tags for elements without content, and references for the characters with a meaning.
-/
namespace Harvest.Markup.Document

def text (d : Document) (i : Nat) : String :=
  String.join ((i :: d.descendants i).map fun j => match d.data j with
    | .text s => s
    | _ => "")

/-- One character of markup; the quote has a meaning in attributes, the brackets in text. -/
def escapeChar (inAttr : Bool) (c : Char) : List Char :=
  if c == '&' then "&amp;".toList
  else if c.toNat == 0xA0 then "&nbsp;".toList
  else if c == '"' && inAttr then "&quot;".toList
  else if c == '<' && !inAttr then "&lt;".toList
  else if c == '>' && !inAttr then "&gt;".toList
  else [c]

def escape (inAttr : Bool) (s : String) : List Char := s.toList.flatMap (escapeChar inAttr)

/-- The elements that have no content and no end tag. -/
def emptyWords : List String := Name.listed [
  "area base basefont bgsound br col embed frame hr img input keygen link meta param source track wbr"]

/-- The elements whose text is written as it is. -/
def rawWords : List String := ["style", "script", "xmp", "iframe", "noembed", "noframes", "plaintext"]

/-- An attribute behind the name of its tag. -/
def writeAttr (a : Attr) : List Char := ' ' :: (a.written.toList ++ '=' :: '"' :: (escape true a.value ++ ['"']))

/-- What is written before the content of a node; `raw` says that texts are written as they are. -/
def opening (raw : Bool) : Data → List Char
  | .doctype name => "<!DOCTYPE ".toList ++ name.toList ++ ['>']
  | .comment text => "<!--".toList ++ text.toList ++ "-->".toList
  | .text s => if raw then s.toList else escape false s
  | .element n as => '<' :: (n.word.toList ++ as.flatMap writeAttr ++ ['>'])
  | .document | .fragment => []

/-- What is written behind the content of a node. -/
def closing : Data → List Char
  | .element n _ => if n.isAny emptyWords then [] else '<' :: '/' :: (n.word.toList ++ ['>'])
  | _ => []

/-- Does an element's content keep its texts as they are?  What holds a template's content passes on what it is in. -/
def keepsRaw (raw : Bool) : Data → Bool
  | .element n _ => n.isAny rawWords
  | _ => raw

/-- The content of an element that has none is not written. -/
def hasContent : Data → Bool
  | .element n _ => !n.isAny emptyWords
  | _ => true

/-- The markup of a node; `fuel` bounds how deep it goes. -/
def write (d : Document) (raw : Bool) : Nat → Nat → List Char
  | 0, _ => []
  | fuel + 1, i =>
    let data := d.data i
    let content := if hasContent data then (d.children i).flatMap (write d (keepsRaw raw data) fuel) else []
    opening raw data ++ content ++ closing data

/-- The markup of an element, or of the root element in place of any other node. -/
def outer (d : Document) (i : Nat) : Except ExtractError String :=
  match if d.isElement i then some i else d.rootElement? with
  | some j => .ok (String.ofList (d.write false d.size j))
  | none => .error .rootless

/-- The markup inside an element, or of the root element in place of any other node. -/
def inner (d : Document) (i : Nat) : Except ExtractError String :=
  if d.isElement i then .ok (String.ofList ((d.children i).flatMap (d.write false d.size)))
  else d.outer i

end Harvest.Markup.Document
