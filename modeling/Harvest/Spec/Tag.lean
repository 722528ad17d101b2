import Harvest.Text.Find
/-!
# Type tags

What a node's value is to be.  `ofText` reads a tag and `toText` writes it back as it was, whether it is known or not.
-/
namespace Harvest

/-- The kind of value that a node yields. -/
inductive Tag where
  | int
  | float
  | bool
  | string
  | ints
  | floats
  | bools
  | strings
  | map
  | array
  /-- The text as a JSON value. -/
  | json
  /-- The text as a JSON document of its own. -/
  | jsonParse
  | text
  | href
  | html
  | outHtml
  | src
  | alt
  | texts
  | hrefs
  | attr (name : String)
  | attrs (name : String)
  /-- Any other tag. -/
  | unknown (raw : String)
  deriving DecidableEq, Repr

namespace Tag

instance : Inhabited Tag := ⟨.unknown ""⟩

def words : List (String × Tag) := [
  ("int", int), ("float", float), ("bool", bool), ("string", string),
  ("int-array", ints), ("float-array", floats), ("bool-array", bools), ("string-array", strings),
  ("map", map), ("array", array), ("json", json), ("jsonparse", jsonParse),
  ("text", text), ("href", href), ("html", html), ("outhtml", outHtml), ("src", src), ("alt", alt),
  ("text-array", texts), ("href-array", hrefs)]

/-- What stands between `opening` and a closing bracket, if it is not empty. -/
def bracketed? (opening text : List Char) : Option String :=
  match Text.after? opening text with
  | some rest =>
    if rest.getLast? == some ']' && 1 < rest.length then some (String.ofList rest.dropLast) else none
  | none => none

/-- The words before the brackets of the two tags with a name. -/
def attrOpening : List Char := ['a', 't', 't', 'r', '[']

def attrsOpening : List Char := ['a', 't', 't', 'r', '-', 'a', 'r', 'r', 'a', 'y', '[']

def ofText (raw : String) : Tag :=
  match List.lookup raw words with
  | some t => t
  | none =>
    match bracketed? attrOpening raw.toList with
    | some name => .attr name
    | none =>
      match bracketed? attrsOpening raw.toList with
      | some name => .attrs name
      | none => .unknown raw

def toText : Tag → String
  | int => "int"
  | float => "float"
  | bool => "bool"
  | string => "string"
  | ints => "int-array"
  | floats => "float-array"
  | bools => "bool-array"
  | strings => "string-array"
  | map => "map"
  | array => "array"
  | json => "json"
  | jsonParse => "jsonparse"
  | text => "text"
  | href => "href"
  | html => "html"
  | outHtml => "outhtml"
  | src => "src"
  | alt => "alt"
  | texts => "text-array"
  | hrefs => "href-array"
  | attr name => "attr[" ++ name ++ "]"
  | attrs name => "attr-array[" ++ name ++ "]"
  | unknown raw => raw

def isKnown : Tag → Bool
  | unknown _ => false
  | _ => true

end Tag

end Harvest
