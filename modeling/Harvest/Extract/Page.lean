import Harvest.Error
import Harvest.Json.Source
import Harvest.Markup.Document
import Harvest.Markup.Rules
import Harvest.Text.Blank
import Harvest.Text.Utf8
/-!
# Pages

The kinds of bodies that values are taken from, and a body that has been read as one of them.
-/
namespace Harvest.Extract

/-- What a body is declared to be. -/
inductive PageKind where
  | html
  | json
  | text
  deriving DecidableEq, Repr

namespace PageKind

def name : PageKind → String
  | html => "html"
  | json => "json"
  | text => "text"

/-- The kind that a text names; scripts and other markup are plain texts. -/
def ofText (s : String) : Except ExtractError PageKind :=
  let t := String.ofList ((Text.trimBlank s.toList).map Char.toLower)
  if t == "html" then .ok html
  else if t == "json" then .ok json
  else if t == "text" || t == "js" || t == "xml" then .ok text
  else .error (.decode (.pageKind t))

end PageKind

/-- A body that has been read. -/
inductive Page where
  | html (d : Markup.Document)
  | json (j : Json)
  | text (s : String)

namespace Page

def kind : Page → PageKind
  | html _ => .html
  | json _ => .json
  | text _ => .text

/-- Reads a body as what it is declared to be; a JSON body must be well formed to the last byte. -/
def parse (body : List UInt8) : PageKind → Except ExtractError Page
  | .html => .ok (.html (.ofTree (Markup.parse (Text.Utf8.toStringLossy body))))
  | .json =>
    match (Text.Utf8.toString? body).bind Json.read? with
    | some j => .ok (.json j)
    | none => .error (.decode (.jsonBody body))
  | .text => .ok (.text (Text.Utf8.toStringLossy body))

end Page

end Harvest.Extract
