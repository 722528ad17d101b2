/-!
# Document types

What a document type declaration says, and whether it puts a document into the mode in which tables stay inside
paragraphs.
-/
namespace Harvest.Markup

/-- A document type declaration. -/
structure Doctype where
  name : String
  publicId : Option String
  systemId : Option String
  /-- Could the declaration not be read to its end? -/
  broken : Bool
  deriving DecidableEq, Repr

namespace Doctype

def isSpace (c : Char) : Bool := c == ' ' || c == '\n' || c == '\t' || c == '\x0c' || c == '\r'

/-- A text with the replacement character for each null character. -/
def withoutNull (cs : List Char) : List Char := cs.map fun c => if c.toNat == 0 then '\uFFFD' else c

def lower (cs : List Char) : List Char := cs.map Char.toLower

/-- Does the text start with a word, in any case? -/
def startsWith (word : String) (cs : List Char) : Bool := lower (cs.take word.length) == word.toList

/-- A quoted identifier and what follows it; `none` for the rest if the closing quote is missing. -/
def identifier? : List Char → Option (String × Option (List Char))
  | q :: cs =>
    if q == '"' || q == '\'' then
      let id := cs.takeWhile (· != q)
      let text := String.ofList (withoutNull id)
      match cs.drop id.length with
      | _ :: rest => some (text, some (rest.dropWhile isSpace))
      | [] => some (text, none)
    else none
  | [] => none

def identifiers (name : String) (cs : List Char) : Doctype :=
  let cs := cs.dropWhile isSpace
  if cs.isEmpty then ⟨name, none, none, false⟩
  else if startsWith "public" cs then
    match identifier? ((cs.drop 6).dropWhile isSpace) with
    | none => ⟨name, none, none, true⟩
    | some (pub, none) => ⟨name, some pub, none, true⟩
    | some (pub, some []) => ⟨name, some pub, none, false⟩
    | some (pub, some rest) =>
      match identifier? rest with
      | none => ⟨name, some pub, none, true⟩
      | some (sys, none) => ⟨name, some pub, some sys, true⟩
      | some (sys, some _) => ⟨name, some pub, some sys, false⟩
  else if startsWith "system" cs then
    match identifier? ((cs.drop 6).dropWhile isSpace) with
    | none => ⟨name, none, none, true⟩
    | some (sys, none) => ⟨name, none, some sys, true⟩
    | some (sys, some _) => ⟨name, none, some sys, false⟩
  else ⟨name, none, none, true⟩

/-- The declaration that stands between its keyword and the closing bracket. -/
def read (cs : List Char) : Doctype :=
  let cs := cs.dropWhile isSpace
  let name := cs.takeWhile (!isSpace ·)
  if name.isEmpty then ⟨"", none, none, true⟩
  else identifiers (String.ofList (withoutNull (lower name))) (cs.drop name.length)

/-- The public identifiers of old document types, but for what stands between these two parts. -/
def oldPublicIds : List String := [
  "-//ietf//dtd html", "-//w3c//dtd html 3 1995-03-24//", "-//w3c//dtd html 3.2 draft//",
  "-//w3c//dtd html 3.2 final//", "-//w3c//dtd html 3.2//", "-//w3c//dtd html 3.2s draft//",
  "-//w3c//dtd html 4.0 frameset//", "-//w3c//dtd html 4.0 transitional//",
  "-//w3c//dtd html experimental 19960712//", "-//w3c//dtd html experimental 970421//", "-//w3c//dtd w3 html//",
  "-//w3o//dtd w3 html 3.0//"]

/-- The public identifiers that are old as a whole. -/
def oldWholeIds : List String := ["-//w3o//dtd w3 html strict 3.0//en//", "-/w3c/dtd html 4.0 transitional/en", "html"]

/-- The public identifiers that are old where there is no system identifier. -/
def oldAloneIds : List String := ["-//w3c//dtd html 4.01 frameset//", "-//w3c//dtd html 4.01 transitional//"]

/-- Is this the declaration of a document to be read in the old way? -/
def isOld (d : Doctype) : Bool :=
  let pub := (d.publicId.map fun s => lower s.toList).getD []
  let starts (id : String) : Bool := id.toList.isPrefixOf pub
  d.broken || d.name != "html" || oldWholeIds.any (fun id => id.toList == pub) || oldPublicIds.any starts
    || (d.systemId.isNone && oldAloneIds.any starts)

end Doctype

end Harvest.Markup
