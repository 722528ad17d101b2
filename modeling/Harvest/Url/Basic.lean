import Harvest.Text.Blank
import Harvest.Url.Host
/-!
# URLs

A URL is read into its scheme, its host and the segments of its path.  White space at its ends and line breaks inside do
not count; a path is freed of its dot segments and its characters are escaped.
-/
namespace Harvest

/-- A URL. -/
structure Url where
  /-- In lower case. -/
  scheme : String
  /-- The host as the URL writes it; it may be empty. -/
  host : Option (List Char)
  /-- The segments of a path that starts with a slash. -/
  segments : Option (List (List Char))
  deriving DecidableEq, Repr

namespace Url

/-- The kinds of schemes. -/
inductive SchemeKind where
  /-- The scheme always has a host. -/
  | network
  | file
  | other
  deriving DecidableEq, Repr

def kindOf (scheme : String) : SchemeKind :=
  if ["http", "https", "ws", "wss", "ftp"].contains scheme then .network
  else if scheme == "file" then .file
  else .other

/-- The scheme at the head of a text, in lower case, and the text behind its colon. -/
def scheme? (cs : List Char) : Option (String × List Char) :=
  let name := cs.takeWhile fun c => c.isAlphanum || c == '+' || c == '-' || c == '.'
  match name.head?, cs.drop name.length with
  | some c, ':' :: rest => if c.isAlpha then some (String.ofList (name.map Char.toLower), rest) else none
  | _, _ => none

def isSlash (kind : SchemeKind) (c : Char) : Bool := c == '/' || (kind != .other && c == '\\')

/-- Does the character end the part that names the host? -/
def endsAuthority (kind : SchemeKind) (c : Char) : Bool := isSlash kind c || c == '?' || c == '#'

def afterUser (authority : List Char) : List Char := (authority.reverse.takeWhile (· != '@')).reverse

/-- A host and what stands behind its colon; colons in brackets do not count. -/
def cutPort (inside : Bool) : List Char → List Char × Option (List Char)
  | [] => ([], none)
  | c :: cs =>
    if c == ':' && !inside then ([], some cs)
    else
      let r := cutPort (c == '[' || (inside && c != ']')) cs
      (c :: r.1, r.2)

/-- Is this a port number?  It may be missing. -/
def isPort (cs : List Char) : Bool := cs.isEmpty || (Text.Numeral.natural? cs).any (· < 0x10000)

/-- The host of an authority, if the authority is well-formed. -/
def host? (kind : SchemeKind) (authority : List Char) : Option (List Char) :=
  let rest := afterUser authority
  let (host, port) := cutPort false rest
  let valid := match kind with
    | .other => Host.isOpaqueHost host && !(host.isEmpty && port.isSome) && authority != ['@']
    | _ => !host.isEmpty && Host.isNetworkHost host
  if valid && port.all isPort then some host else none

/-- Is the segment one dot, escaped or not? -/
def isDot (s : List Char) : Bool := [".", "%2e"].contains (String.ofList (s.map Char.toLower))

/-- Does the segment consist of two dots, escaped or not? -/
def isDotDot (s : List Char) : Bool :=
  ["..", ".%2e", "%2e.", "%2e%2e"].contains (String.ofList (s.map Char.toLower))

/-- One character of a path, escaped if it has to be. -/
def escapeChar (c : Char) : List Char :=
  if c.toNat ≤ 0x20 || c.toNat ≥ 0x7F || "\"#<>?`^\x7b\x7d".toList.contains c then
    (Text.Utf8.encodeChar c).flatMap fun b =>
      '%' :: (Text.Quoted.hexDigits 2 b.toNat).map Char.toUpper
  else [c]

/-- A path without its dot segments; `done` holds the segments before, the last of them first. -/
def resolve (done : List (List Char)) : List (List Char) → List (List Char)
  | [] => done.reverse
  | [s] =>
    if isDotDot s then ([] :: done.tail).reverse
    else if isDot s then ([] :: done).reverse
    else (s :: done).reverse
  | s :: rest =>
    if isDotDot s then resolve done.tail rest
    else if isDot s then resolve done rest
    else resolve (s :: done) rest

/-- The segments of a text between slashes. -/
def splitPath (kind : SchemeKind) : List Char → List (List Char)
  | [] => [[]]
  | c :: cs =>
    if isSlash kind c then [] :: splitPath kind cs
    else match splitPath kind cs with
      | [] => [[c]]
      | s :: ss => (c :: s) :: ss

/-- The segments of a path behind its first slash. -/
def pathSegments (kind : SchemeKind) (path : List Char) : List (List Char) :=
  resolve [] ((splitPath kind path).map (·.flatMap escapeChar))

def withoutQuery (cs : List Char) : List Char := cs.takeWhile fun c => c != '?' && c != '#'

/-- What follows the host: the segments of the path, if there is a path. -/
def pathAfterHost (kind : SchemeKind) (cs : List Char) : Option (List (List Char)) :=
  match withoutQuery cs with
  | [] => if kind == .other then none else some [[]]
  | c :: cs => some (pathSegments kind (if isSlash kind c then cs else c :: cs))

/-- The host and path of a text whose double slash has been read. -/
def afterSlashes (scheme : String) (kind : SchemeKind) (cs : List Char) : Option Url :=
  let authority := cs.takeWhile fun c => !endsAuthority kind c
  let rest := cs.drop authority.length
  (host? kind authority).map fun h => ⟨scheme, some h, pathAfterHost kind rest⟩

def file (cs : List Char) : Option Url :=
  match cs with
  | a :: b :: rest =>
    if isSlash .file a && isSlash .file b then
      let host := rest.takeWhile fun c => !endsAuthority .file c
      if host.isEmpty || Host.isNetworkHost host then
        some ⟨"file", some host, pathAfterHost .file (rest.drop host.length)⟩
      else none
    else some ⟨"file", none, pathAfterHost .file cs⟩
  | cs => some ⟨"file", none, pathAfterHost .file cs⟩

def parse? (s : String) : Option Url := do
  let cs := (Text.trimBy (·.toNat ≤ 0x20) s.toList).filter fun c => c != '\t' && c != '\n' && c != '\r'
  let (scheme, rest) ← scheme? cs
  match kindOf scheme with
  | .network => afterSlashes scheme .network (rest.dropWhile (isSlash .network))
  | .file => file rest
  | .other =>
    match rest with
    | '/' :: '/' :: rest => afterSlashes scheme .other rest
    | '/' :: rest => some ⟨scheme, none, some (pathSegments .other (withoutQuery rest))⟩
    | _ => some ⟨scheme, none, none⟩

/-- The last segment of the path that is not empty. -/
def fileName? (u : Url) : Option String :=
  ((u.segments.getD []).filter (!·.isEmpty)).getLast?.map String.ofList

/-- Does the text name a place on the network that files come from? -/
def isWebAddress (s : String) : Bool :=
  (parse? s).any fun u => ["http", "https", "ftp", "ftps"].contains u.scheme && u.host.any (!·.isEmpty)

end Url

end Harvest
