import Harvest.Markup.Builder
/-!
# The rules of building

What each mode does with a token.  A rule either uses the token up or changes the mode and leaves the token to the rule
of the new mode.  `parse` builds the tree of a text; each text has one.
-/
namespace Harvest.Markup

namespace Builder

/-- What a rule leaves: the builder, and the token if it is not used up. -/
abbrev Step := Builder × Option Token

def done (b : Builder) : Step := (b, none)

def again (b : Builder) (mode : Mode) (t : Token) : Step := ({ b with mode }, some t)

def goTo (b : Builder) (mode : Mode) : Step := ({ b with mode }, none)

/-! ## The head -/

/-- A second root: it only adds attributes. -/
def secondRoot (b : Builder) (t : StartTag) : Step :=
  if b.isOpen "template" then done b
  else done { b with tree := b.tree.addAttrs b.root (attrsOf t) }

def closedHeadTags : List String := ["base", "basefont", "bgsound", "link", "meta"]

def headTags : List String := closedHeadTags ++ ["noframes", "script", "style", "template", "title"]

/-- A start tag that belongs into the head. -/
def startInHead (b : Builder) (t : StartTag) : Builder :=
  if closedHeadTags.contains t.name then b.insertClosed t
  else if t.name == "title" then b.insertText t (.escapable t.name)
  else if t.name == "script" then b.insertText t (.script t.name)
  else if t.name == "template" then
    { (b.insert t).mark with framesetOk := false, mode := .inTemplate, templates := .inTemplate :: b.templates }
  else b.insertText t (.raw t.name)

def endTemplate (b : Builder) : Builder :=
  if !b.isOpen "template" then b
  else
    let b := ((b.popWhile Name.closesItselfInTemplate).popThrough (Name.is "template")).unmark
    let b := { b with templates := b.templates.tail }
    { b with mode := b.currentMode }

def inHead (b : Builder) (t : Token) : Step :=
  match t with
  | .blank cs => done (b.addText cs)
  | .comment s => done (b.addComment s)
  | .start tag =>
    if tag.name == "html" then b.secondRoot tag
    else if headTags.contains tag.name || tag.name == "noscript" then done (b.startInHead tag)
    else if tag.name == "head" then done b
    else b.pop.again .afterHead t
  | .stop word =>
    if word == "head" then b.pop.goTo .afterHead
    else if word == "template" then done b.endTemplate
    else if ["body", "html", "br"].contains word then b.pop.again .afterHead t
    else done b
  | _ => b.pop.again .afterHead t

/-! ## The body -/

/-- The body, if it is open as the second element. -/
def body? (b : Builder) : Option Nat :=
  match b.stack.reverse with
  | _ :: i :: _ => if (b.nameOf i).is "body" then some i else none
  | _ => none

def blockTags : List String := Name.listed [
  "address article aside blockquote center details dialog dir div dl fieldset figcaption figure footer header hgroup",
  "main menu nav ol p search section summary ul"]

def blockEnds : List String := Name.listed [
  "address article aside blockquote button center details dialog dir div dl fieldset figcaption figure footer header",
  "hgroup listing main menu nav ol pre search section summary ul"]

def formattingTags : List String := Name.listed ["b big code em font i s small strike strong tt u"]

/-- Closes an open item of a list before the next one is opened. -/
def closeItem (b : Builder) (words : List String) : List Nat → Builder
  | [] => b
  | i :: rest =>
    let n := b.nameOf i
    if n.isAny words then (b.implyEndsBut n.word).popThrough (Name.is n.word)
    else if n.isBarrier then b
    else b.closeItem words rest

def isHidden (t : StartTag) : Bool :=
  t.attrs.any fun a => a.1 == "type" && String.ofList (a.2.toList.map Char.toLower) == "hidden"

/-- An element without content in the body. -/
def insertVoid (b : Builder) (t : StartTag) : Builder :=
  let b := b.reconstruct.insertClosed t
  if t.name == "input" && isHidden t then b else { b with framesetOk := false }

/-- Ends a link that is still open before the next one. -/
def closeLink (b : Builder) : Builder :=
  match b.formattingHere.find? fun p => p.2.name == "a" with
  | none => b
  | some (i, _) => ((b.adopt "a").forget i).close i

def noFrameset (b : Builder) : Builder := { b with framesetOk := false }

def isTableMode : Mode → Bool
  | .inTable | .inCaption | .inTableBody | .inRow | .inCell => true
  | _ => false

/-- A start tag in the body that is neither one of the head nor of a table. -/
def startInBody (b : Builder) (t : StartTag) : Builder :=
  let n := t.name
  if blockTags.contains n then b.closeParagraph.insert t
  else if Name.headings.contains n then
    let b := b.closeParagraph
    (if b.currentName.isHeading then b.pop else b).insert t
  else if n == "pre" || n == "listing" then
    { b.closeParagraph.insert t with skipNewline := true, framesetOk := false }
  else if n == "form" then
    let inTemplate := b.isOpen "template"
    if b.form.isSome && !inTemplate then b
    else
      let b := b.closeParagraph.insert t
      if inTemplate then b else { b with form := some b.current }
  else if n == "li" then ((b.noFrameset.closeItem ["li"] b.stack).closeParagraph).insert t
  else if n == "dd" || n == "dt" then ((b.noFrameset.closeItem ["dd", "dt"] b.stack).closeParagraph).insert t
  else if n == "plaintext" then { b.closeParagraph.insert t with reading := .plain }
  else if n == "button" then
    let b := if b.hasIn Name.endsScope n then b.implyEnds.popThrough (Name.is n) else b
    (b.reconstruct.insert t).noFrameset
  else if n == "a" then b.closeLink.reconstruct.insertFormatting t
  else if formattingTags.contains n then b.reconstruct.insertFormatting t
  else if n == "nobr" then
    let b := b.reconstruct
    let b := if b.hasIn Name.endsScope n then (b.adopt n).reconstruct else b
    b.insertFormatting t
  else if ["applet", "marquee", "object"].contains n then (b.reconstruct.insert t).mark.noFrameset
  else if n == "table" then
    let b := if b.old then b else b.closeParagraph
    { (b.insert t).noFrameset with mode := .inTable }
  else if ["area", "br", "embed", "img", "keygen", "wbr", "input"].contains n then b.insertVoid t
  else if n == "image" then b.insertVoid { t with name := "img" }
  else if ["param", "source", "track"].contains n then b.insertClosed t
  else if n == "hr" then (b.closeParagraph.insertClosed t).noFrameset
  else if n == "textarea" then { b.noFrameset.insertText t (.escapable n) with skipNewline := true }
  else if n == "xmp" then b.closeParagraph.reconstruct.noFrameset.insertText t (.raw n)
  else if n == "iframe" then b.noFrameset.insertText t (.raw n)
  else if n == "noembed" || n == "noscript" then b.insertText t (.raw n)
  else if n == "select" then
    { (b.reconstruct.insert t).noFrameset with mode := if isTableMode b.mode then .inSelectInTable else .inSelect }
  else if n == "optgroup" || n == "option" then
    (if b.currentName.is "option" then b.pop else b).reconstruct.insert t
  else if n == "rb" || n == "rtc" then
    (if b.hasIn Name.endsScope "ruby" then b.implyEnds else b).insert t
  else if n == "rp" || n == "rt" then
    (if b.hasIn Name.endsScope "ruby" then b.implyEndsBut "rtc" else b).insert t
  else if n == "math" then b.insertForeign .mathml t
  else if n == "svg" then b.insertForeign .svg t
  else if ["caption", "col", "colgroup", "frame", "head", "tbody", "td", "tfoot", "th", "thead", "tr"].contains n then b
  else b.reconstruct.insert t

/-- Closes the element of a name if it is in scope. -/
def endInScope (b : Builder) (hides : Name → Bool) (word : String) : Builder :=
  if b.hasIn hides word then b.implyEnds.popThrough (Name.is word) else b

def endForm (b : Builder) : Builder :=
  if b.isOpen "template" then b.endInScope Name.endsScope "form"
  else match b.form with
    | none => b
    | some i =>
      let b := { b with form := none }
      if b.inScope Name.endsScope (· == i) then b.implyEnds.close i else b

def endInBody (b : Builder) (word : String) : Builder :=
  if blockEnds.contains word then b.endInScope Name.endsScope word
  else if word == "form" then b.endForm
  else if word == "p" then
    (if b.hasIn Name.endsButtonScope "p" then b else b.insertBare "p").closeParagraph
  else if ["li", "dd", "dt"].contains word then
    if b.hasIn (if word == "li" then Name.endsListScope else Name.endsScope) word then
      (b.implyEndsBut word).popThrough (Name.is word)
    else b
  else if Name.headings.contains word then
    if b.inScope Name.endsScope fun i => (b.nameOf i).isHeading then b.implyEnds.popThrough Name.isHeading else b
  else if word == "a" || word == "nobr" || formattingTags.contains word then b.adopt word
  else if ["applet", "marquee", "object"].contains word then
    if b.hasIn Name.endsScope word then (b.endInScope Name.endsScope word).unmark else b
  else if word == "br" then b.insertVoid ⟨"br", [], false⟩
  else b.endAny word

/-- A body in place of which a frameset is to stand. -/
def startFrameset (b : Builder) (t : StartTag) : Builder :=
  match b.body? with
  | some i =>
    if b.framesetOk then
      let b := { b with tree := b.tree.detach i, stack := [b.root] }
      { b.insert t with mode := .inFrameset }
    else b
  | none => b

/-- The end of the text inside a template. -/
def endOfTemplates (b : Builder) (t : Token) : Step :=
  if !b.isOpen "template" then done b
  else
    let b := (b.popThrough (Name.is "template")).unmark
    let b := { b with templates := b.templates.tail }
    b.again b.currentMode t

def inBody (b : Builder) (t : Token) : Step :=
  match t with
  | .null => done b
  | .blank cs => done (b.reconstruct.addText cs)
  | .chars cs => done (b.reconstruct.addText cs).noFrameset
  | .comment s => done (b.addComment s)
  | .eof => if b.templates.isEmpty then done b else b.endOfTemplates t
  | .doctype _ => done b
  | .start tag =>
    if tag.name == "html" then b.secondRoot tag
    else if headTags.contains tag.name then done (b.startInHead tag)
    else if tag.name == "body" then
      match b.body? with
      | some i =>
        if b.isOpen "template" then done b
        else done { b with tree := b.tree.addAttrs i (attrsOf tag), framesetOk := false }
      | none => done b
    else if tag.name == "frameset" then done (b.startFrameset tag)
    else done (b.startInBody tag)
  | .stop word =>
    if word == "template" then done b.endTemplate
    else if word == "body" then if b.hasIn Name.endsScope "body" then b.goTo .afterBody else done b
    else if word == "html" then if b.hasIn Name.endsScope "body" then b.again .afterBody t else done b
    else done (b.endInBody word)

/-- The rule of the body for what a table cannot hold; it goes before the table. -/
def outsideTable (b : Builder) (t : Token) : Step :=
  let r := inBody { b with foster := true } t
  ({ r.1 with foster := false }, r.2)

/-! ## Before the body -/

def initial (b : Builder) (t : Token) : Step :=
  match t with
  | .blank _ => done b
  | .comment s => done (b.addCommentTo 0 s)
  | .doctype d =>
    let (i, tree) := b.tree.create (.doctype d.name)
    goTo { b with tree := tree.append 0 i, old := d.isOld } .beforeHtml
  | _ => again { b with old := true } .beforeHtml t

def insertRoot (b : Builder) (attrs : List Attr) : Builder :=
  let (i, b) := b.create (.html "html") attrs
  { b with tree := b.tree.append 0 i, stack := [i] }

def beforeHtml (b : Builder) (t : Token) : Step :=
  match t with
  | .blank _ => done b
  | .comment s => done (b.addCommentTo 0 s)
  | .start tag =>
    if tag.name == "html" then (b.insertRoot (attrsOf tag)).goTo .beforeHead
    else (b.insertRoot []).again .beforeHead t
  | .stop word =>
    if ["head", "body", "html", "br"].contains word then (b.insertRoot []).again .beforeHead t else done b
  | _ => (b.insertRoot []).again .beforeHead t

def insertHead (b : Builder) (t : StartTag) : Builder :=
  let b := b.insert t
  { b with head := some b.current, mode := .inHead }

def beforeHead (b : Builder) (t : Token) : Step :=
  let bare : Step := ((b.insertHead ⟨"head", [], false⟩), some t)
  match t with
  | .blank _ => done b
  | .comment s => done (b.addComment s)
  | .start tag =>
    if tag.name == "html" then b.secondRoot tag
    else if tag.name == "head" then done (b.insertHead tag)
    else bare
  | .stop word => if ["head", "body", "html", "br"].contains word then bare else done b
  | _ => bare

def afterHead (b : Builder) (t : Token) : Step :=
  let bare : Step := (b.insertBare "body").again .inBody t
  match t with
  | .blank cs => done (b.addText cs)
  | .comment s => done (b.addComment s)
  | .start tag =>
    if tag.name == "html" then b.secondRoot tag
    else if tag.name == "body" then (b.insert tag).noFrameset.goTo .inBody
    else if tag.name == "frameset" then (b.insert tag).goTo .inFrameset
    else if headTags.contains tag.name then
      match b.head with
      | some i => done (((b.push i).startInHead tag).close i)
      | none => done b
    else if tag.name == "head" then done b
    else bare
  | .stop word =>
    if word == "template" then done b.endTemplate
    else if ["body", "html", "br"].contains word then bare
    else done b
  | _ => bare

/-! ## Text of one element -/

def text (b : Builder) (t : Token) : Step :=
  match t with
  | .blank cs | .chars cs => done (b.addText cs)
  | .stop _ => b.pop.goTo b.outer
  | .eof => b.pop.again b.outer t
  | _ => done b

/-! ## Tables -/

def inTable (b : Builder) (t : Token) : Step :=
  let characters : Step :=
    if b.currentName.isTablePart then again { b with outer := b.mode, pending := [] } .inTableText t
    else b.outsideTable t
  let bare := b.popTo Name.endsTableScope
  match t with
  | .doctype _ => done b
  | .null | .blank _ | .chars _ => characters
  | .comment s => done (b.addComment s)
  | .eof => inBody b t
  | .start tag =>
    let n := tag.name
    if n == "caption" then (bare.mark.insert tag).goTo .inCaption
    else if n == "colgroup" then (bare.insert tag).goTo .inColumnGroup
    else if n == "col" then (bare.insertBare "colgroup").again .inColumnGroup t
    else if ["tbody", "tfoot", "thead"].contains n then (bare.insert tag).goTo .inTableBody
    else if ["td", "th", "tr"].contains n then (bare.insertBare "tbody").again .inTableBody t
    else if n == "table" then
      if b.hasIn Name.endsTableScope n then
        let b := b.popThrough (Name.is n)
        b.again b.currentMode t
      else done b
    else if ["style", "script", "template"].contains n then done (b.startInHead tag)
    else if n == "input" && isHidden tag then done (b.insertClosed tag)
    else if n == "form" then
      if b.isOpen "template" || b.form.isSome then done b
      else
        let (i, b) := b.addElement (.html n) (attrsOf tag)
        done { b with form := some i }
    else b.outsideTable t
  | .stop word =>
    if word == "table" then
      if b.hasIn Name.endsTableScope word then
        let b := b.popThrough (Name.is word)
        b.goTo b.currentMode
      else done b
    else if word == "template" then done b.endTemplate
    else if ["body", "caption", "col", "colgroup", "html", "tbody", "td", "tfoot", "th", "thead", "tr"].contains word then
      done b
    else b.outsideTable t

/-- Adds the characters in a table: before the table if one of them is no white space. -/
def settlePending (b : Builder) : Builder :=
  let isBlank : Token → Bool
    | .blank _ => true
    | _ => false
  let tokens := b.pending.reverse
  let b := { b with pending := [] }
  if tokens.all isBlank then
    tokens.foldl (fun b t => match t with
      | .blank cs => b.addText cs
      | _ => b) b
  else tokens.foldl (fun b t => (b.outsideTable t).1) b

def inTableText (b : Builder) (t : Token) : Step :=
  match t with
  | .null => done b
  | .blank _ | .chars _ => done { b with pending := t :: b.pending }
  | _ => b.settlePending.again b.outer t

def inCaption (b : Builder) (t : Token) : Step :=
  let closed : Builder := (b.endInScope Name.endsTableScope "caption").unmark
  let isIn := b.hasIn Name.endsTableScope "caption"
  match t with
  | .start tag =>
    if ["caption", "col", "colgroup", "tbody", "td", "tfoot", "th", "thead", "tr"].contains tag.name then
      if isIn then closed.again .inTable t else done b
    else inBody b t
  | .stop word =>
    if word == "caption" then if isIn then closed.goTo .inTable else done b
    else if word == "table" then if isIn then closed.again .inTable t else done b
    else if ["body", "col", "colgroup", "html", "tbody", "td", "tfoot", "th", "thead", "tr"].contains word then done b
    else inBody b t
  | _ => inBody b t

def inColumnGroup (b : Builder) (t : Token) : Step :=
  let other : Step := if b.currentName.is "colgroup" then b.pop.again .inTable t else done b
  match t with
  | .blank cs => done (b.addText cs)
  | .comment s => done (b.addComment s)
  | .eof => inBody b t
  | .start tag =>
    if tag.name == "html" then b.secondRoot tag
    else if tag.name == "col" then done (b.insertClosed tag)
    else if tag.name == "template" then done (b.startInHead tag)
    else other
  | .stop word =>
    if word == "colgroup" then if b.currentName.is word then b.pop.goTo .inTable else done b
    else if word == "col" then done b
    else if word == "template" then done b.endTemplate
    else other
  | _ => other

def inTableBody (b : Builder) (t : Token) : Step :=
  let context := b.popTo Name.isRowGroupContext
  let hasGroup := b.inScope Name.endsTableScope fun i => (b.nameOf i).isRowGroup
  match t with
  | .start tag =>
    if tag.name == "tr" then (context.insert tag).goTo .inRow
    else if tag.name == "th" || tag.name == "td" then (context.insertBare "tr").again .inRow t
    else if ["caption", "col", "colgroup", "tbody", "tfoot", "thead"].contains tag.name then
      if hasGroup then context.pop.again .inTable t else done b
    else inTable b t
  | .stop word =>
    if ["tbody", "tfoot", "thead"].contains word then
      if b.hasIn Name.endsTableScope word then context.pop.goTo .inTable else done b
    else if word == "table" then if hasGroup then context.pop.again .inTable t else done b
    else if ["body", "caption", "col", "colgroup", "html", "td", "th", "tr"].contains word then done b
    else inTable b t
  | _ => inTable b t

def inRow (b : Builder) (t : Token) : Step :=
  let context := b.popTo Name.isRowContext
  let hasRow := b.hasIn Name.endsTableScope "tr"
  match t with
  | .start tag =>
    if tag.name == "th" || tag.name == "td" then (context.insert tag).mark.goTo .inCell
    else if ["caption", "col", "colgroup", "tbody", "tfoot", "thead", "tr"].contains tag.name then
      if hasRow then context.pop.again .inTableBody t else done b
    else inTable b t
  | .stop word =>
    if word == "tr" then if hasRow then context.pop.goTo .inTableBody else done b
    else if word == "table" then if hasRow then context.pop.again .inTableBody t else done b
    else if ["tbody", "tfoot", "thead"].contains word then
      if b.hasIn Name.endsTableScope word && hasRow then context.pop.again .inTableBody t else done b
    else if ["body", "caption", "col", "colgroup", "html", "td", "th"].contains word then done b
    else inTable b t
  | _ => inTable b t

def closeCell (b : Builder) : Builder := (b.implyEnds.popThrough Name.isCell).unmark

def inCell (b : Builder) (t : Token) : Step :=
  match t with
  | .start tag =>
    if ["caption", "col", "colgroup", "tbody", "td", "tfoot", "th", "thead", "tr"].contains tag.name then
      if b.inScope Name.endsTableScope fun i => (b.nameOf i).isCell then b.closeCell.again .inRow t else done b
    else inBody b t
  | .stop word =>
    if word == "td" || word == "th" then
      if b.hasIn Name.endsTableScope word then (b.endInScope Name.endsTableScope word).unmark.goTo .inRow else done b
    else if ["body", "caption", "col", "colgroup", "html"].contains word then done b
    else if ["table", "tbody", "tfoot", "thead", "tr"].contains word then
      if b.hasIn Name.endsTableScope word then b.closeCell.again .inRow t else done b
    else inBody b t
  | _ => inBody b t

/-! ## Choices -/

/-- Closes the current element if it has a name. -/
def popIf (b : Builder) (word : String) : Builder := if b.currentName.is word then b.pop else b

def closeSelect (b : Builder) : Builder :=
  let b := b.popThrough (Name.is "select")
  { b with mode := b.currentMode }

def inSelect (b : Builder) (t : Token) : Step :=
  let isIn := b.hasIn Name.endsSelectScope "select"
  match t with
  | .doctype _ => done b
  | .null => done b
  | .blank cs | .chars cs => done (b.addText cs)
  | .comment s => done (b.addComment s)
  | .eof => inBody b t
  | .start tag =>
    let n := tag.name
    if n == "html" then b.secondRoot tag
    else if n == "option" then done ((b.popIf "option").insert tag)
    else if n == "optgroup" then done (((b.popIf "option").popIf "optgroup").insert tag)
    else if n == "hr" then done (((b.popIf "option").popIf "optgroup").insertClosed tag)
    else if n == "select" then done (if isIn then b.closeSelect else b)
    else if ["input", "keygen", "textarea"].contains n then
      if isIn then let b := b.closeSelect; (b, some t) else done b
    else if n == "script" || n == "template" then done (b.startInHead tag)
    else done b
  | .stop word =>
    if word == "optgroup" then
      let inner := (b.stack.tail.head?).any fun i => (b.nameOf i).is "optgroup"
      let b := if b.currentName.is "option" && inner then b.pop else b
      done (b.popIf "optgroup")
    else if word == "option" then done (b.popIf word)
    else if word == "select" then done (if isIn then b.closeSelect else b)
    else if word == "template" then done b.endTemplate
    else done b

def inSelectInTable (b : Builder) (t : Token) : Step :=
  let parts := ["caption", "table", "tbody", "tfoot", "thead", "tr", "td", "th"]
  match t with
  | .start tag =>
    if parts.contains tag.name then let b := b.closeSelect; (b, some t) else inSelect b t
  | .stop word =>
    if parts.contains word then
      if b.hasIn Name.endsTableScope word then let b := b.closeSelect; (b, some t) else done b
    else inSelect b t
  | _ => inSelect b t

/-! ## Templates -/

def inTemplate (b : Builder) (t : Token) : Step :=
  let as (mode : Mode) : Step := again { b with templates := mode :: b.templates.tail } mode t
  match t with
  | .eof => b.endOfTemplates t
  | .start tag =>
    if headTags.contains tag.name then done (b.startInHead tag)
    else if ["caption", "colgroup", "tbody", "tfoot", "thead"].contains tag.name then as .inTable
    else if tag.name == "col" then as .inColumnGroup
    else if tag.name == "tr" then as .inTableBody
    else if tag.name == "td" || tag.name == "th" then as .inRow
    else as .inBody
  | .stop word => if word == "template" then done b.endTemplate else done b
  | _ => inBody b t

/-! ## Behind the body, and framesets -/

def afterBody (b : Builder) (t : Token) : Step :=
  match t with
  | .blank _ => inBody b t
  | .comment s => done (b.addCommentTo b.root s)
  | .eof => done b
  | .start tag => if tag.name == "html" then b.secondRoot tag else b.again .inBody t
  | .stop word => if word == "html" then b.goTo .afterAfterBody else b.again .inBody t
  | _ => b.again .inBody t

def inFrameset (b : Builder) (t : Token) : Step :=
  match t with
  | .blank cs => done (b.addText cs)
  | .comment s => done (b.addComment s)
  | .start tag =>
    if tag.name == "html" then b.secondRoot tag
    else if tag.name == "frameset" then done (b.insert tag)
    else if tag.name == "frame" then done (b.insertClosed tag)
    else if tag.name == "noframes" then done (b.startInHead tag)
    else done b
  | .stop word =>
    if word == "frameset" && b.stack.length > 1 then
      let b := b.pop
      if b.currentName.is "frameset" then done b else b.goTo .afterFrameset
    else done b
  | _ => done b

def afterFrameset (b : Builder) (t : Token) : Step :=
  match t with
  | .blank cs => done (b.addText cs)
  | .comment s => done (b.addComment s)
  | .start tag =>
    if tag.name == "html" then b.secondRoot tag
    else if tag.name == "noframes" then done (b.startInHead tag)
    else done b
  | .stop word => if word == "html" then b.goTo .afterAfterFrameset else done b
  | _ => done b

def afterAfterBody (b : Builder) (t : Token) : Step :=
  match t with
  | .blank _ => inBody b t
  | .comment s => done (b.addCommentTo 0 s)
  | .eof => done b
  | .start tag => if tag.name == "html" then b.secondRoot tag else b.again .inBody t
  | _ => b.again .inBody t

def afterAfterFrameset (b : Builder) (t : Token) : Step :=
  match t with
  | .blank _ => inBody b t
  | .comment s => done (b.addCommentTo 0 s)
  | .start tag =>
    if tag.name == "html" then b.secondRoot tag
    else if tag.name == "noframes" then done (b.startInHead tag)
    else done b
  | _ => done b

def rule (b : Builder) (t : Token) : Step :=
  match b.mode with
  | .initial => b.initial t
  | .beforeHtml => b.beforeHtml t
  | .beforeHead => b.beforeHead t
  | .inHead => b.inHead t
  | .afterHead => b.afterHead t
  | .inBody => b.inBody t
  | .text => b.text t
  | .inTable => b.inTable t
  | .inTableText => b.inTableText t
  | .inCaption => b.inCaption t
  | .inColumnGroup => b.inColumnGroup t
  | .inTableBody => b.inTableBody t
  | .inRow => b.inRow t
  | .inCell => b.inCell t
  | .inSelect => b.inSelect t
  | .inSelectInTable => b.inSelectInTable t
  | .inTemplate => b.inTemplate t
  | .afterBody => b.afterBody t
  | .inFrameset => b.inFrameset t
  | .afterFrameset => b.afterFrameset t
  | .afterAfterBody => b.afterAfterBody t
  | .afterAfterFrameset => b.afterAfterFrameset t

/-! ## Drawings and formulas -/

/-- Does the rule of drawings and formulas apply to a token? -/
def isForeign (b : Builder) (t : Token) : Bool :=
  let n := b.currentName
  if b.stack.isEmpty || n.space == .html then false
  else match t with
    | .eof => false
    | .null | .blank _ | .chars _ => !n.isMathText && !n.isSvgHtml
    | .start tag =>
      !(n.isMathText && tag.name != "mglyph" && tag.name != "malignmark") && !n.isSvgHtml
        && !(n == ⟨.mathml, "annotation-xml"⟩ && tag.name == "svg")
    | _ => true

/-- Does an element end what a tag of the main vocabulary breaks out of? -/
def endsForeign (n : Name) : Bool := n.space == .html || n.isMathText || n.isSvgHtml

/-- Closes an element of a drawing or formula by its name, in any case. -/
def endForeign (b : Builder) (word : String) (first : Bool) : List Nat → Step
  | [] | [_] => done b
  | i :: rest =>
    let n := b.nameOf i
    if !first && n.space == .html then b.rule (.stop word)
    else if String.ofList (n.word.toList.map Char.toLower) == word then done { b with stack := rest }
    else b.endForeign word false rest

def foreign (b : Builder) (t : Token) : Step :=
  match t with
  | .null => done (b.addText ['\uFFFD'])
  | .blank cs => done (b.addText cs)
  | .chars cs => done (b.addText cs).noFrameset
  | .comment s => done (b.addComment s)
  | .start tag =>
    if Foreign.breaksOut tag then (b.popTo endsForeign).rule t
    else
      let space := b.currentName.space
      let name := if space == .svg then Foreign.spelling Foreign.svgNames tag.name else tag.name
      done (b.insertForeign space { tag with name })
  | .stop word =>
    if word == "br" || word == "p" then (b.popTo endsForeign).rule t else b.endForeign word true b.stack
  | _ => done b

/-! ## The whole text -/

/-- Takes a token through the modes until it is used up; `fuel` bounds how often it changes hands. -/
def feed : Nat → Token → Builder → Builder
  | 0, _, b => b
  | fuel + 1, t, b =>
    match if b.isForeign t then b.foreign t else b.rule t with
    | (b, none) => b
    | (b, some t) => feed fuel t b

/-- A token without the line feed that may be left out at its head. -/
def trimmed (b : Builder) (t : Token) : Token :=
  match b.skipNewline, t with
  | true, .blank ('\n' :: cs) => .blank cs
  | true, .chars ('\n' :: cs) => .chars cs
  | _, t => t

/-- Is the token of no use: a declaration behind the start of the document? -/
def isMisplaced (b : Builder) : Token → Bool
  | .doctype _ => b.mode != .initial
  | _ => false

/-- Is the token a run without characters? -/
def isNothing : Token → Bool
  | .blank [] | .chars [] => true
  | _ => false

/-- How often a token may change hands: each time an element closes, or the mode moves on. -/
def hands (b : Builder) : Nat := 4 * b.stack.length + 32

def take (b : Builder) (t : Token) : Builder :=
  if isNothing t then b
  else
    let t := b.trimmed t
    let b := { b with skipNewline := false }
    if isNothing t || b.isMisplaced t then b
    else
      let wasText := b.mode == .text
      let b := feed b.hands t b
      match t with
      | .stop _ => if wasText then { b with reading := .markup } else b
      | _ => b

def takeAll : Nat → Builder → List Char → Builder
  | 0, b, _ => b
  | fuel + 1, b, cs =>
    let sections := !b.stack.isEmpty && b.currentName.space != .html
    match Token.next b.reading sections cs with
    | (.eof, _) => b.take .eof
    | (t, rest) => takeAll fuel (b.take t) rest

end Builder

/-- A text with one kind of line end and without the mark of its encoding. -/
def normalize (cs : List Char) : List Char :=
  let rec lines : List Char → List Char
    | [] => []
    | '\r' :: '\n' :: cs => '\n' :: lines cs
    | '\r' :: cs => '\n' :: lines cs
    | c :: cs => c :: lines cs
  match cs with
  | '\uFEFF' :: cs => lines cs
  | cs => lines cs

def parse (text : String) : Tree :=
  let cs := normalize text.toList
  (Builder.takeAll (2 * cs.length + 2) .start cs).tree.tree

end Harvest.Markup
