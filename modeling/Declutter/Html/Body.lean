import Declutter.Html.Head

namespace Declutter.Html.Builder

/-- The end of the markup inside templates. -/
def finishTemplate (b : Builder) : Outcome :=
  if b.hasOpen "template" then
    let b := (b.popThroughNamed ["template"]).clearToMarker
    .again { b with templateModes := b.templateModes.drop 1 }.resetMode
  else .done { b with finished := true }

def finish (b : Builder) : Outcome :=
  if b.templateModes.isEmpty then .done { b with finished := true } else b.finishTemplate

def body? (b : Builder) : Option OpenElement :=
  match b.opened.reverse with
  | _ :: e :: _ => if isAmong ["body"] e.name then some e else none
  | _ => none

/-- Fills in the attributes that the body lacks. -/
def mergeBody (b : Builder) (tag : Tag) : Builder :=
  match if b.hasOpen "template" then none else b.body? with
  | some e =>
    { b.forbidFrames with
      draft := b.draft.mapElement e.id (·.filledFrom tag.element.attributes) }
  | none => b

/-- Puts frames in place of a body that has shown nothing yet. -/
def replaceBody (b : Builder) (tag : Tag) : Builder :=
  match if b.framesAllowed then b.body? else none with
  | some e =>
    let root := b.opened.drop (b.opened.length - 1)
    ({ b with draft := b.draft.remove e.id, opened := root }.insert tag.element).inMode .inFrameset
  | none => b

/-- Closes an open list item that a new one follows. -/
def endItem (b : Builder) (names : List String) : List OpenElement → Builder
  | [] => b
  | e :: outer =>
    if isAmong names e.name then (b.closeImplied e.name.name).popThrough (· = e.name)
    else if isSpecial e.name ∧ !isAmong ["address", "div", "p"] e.name then b
    else b.endItem names outer

def startItem (b : Builder) (tag : Tag) (names : List String) : Builder :=
  let b := b.forbidFrames
  ((b.endItem names b.opened).endParagraph).insert tag.element

def endBlock (b : Builder) (name : Text) (ends : ElementName → Bool) (implied : Text) : Builder :=
  if inScopeWhere ends (·.name == htmlName name) b.opened then
    (b.closeImplied implied).popThrough (· = htmlName name)
  else b

def startForm (b : Builder) (tag : Tag) : Builder :=
  let inTemplate := b.hasOpen "template"
  if b.form.isSome ∧ !inTemplate then b
  else
    let b := b.endParagraph
    { b.insert tag.element with form := if inTemplate then b.form else some b.draft.next }

def endForm (b : Builder) : Builder :=
  if b.hasOpen "template" then b.endBlock "form".toList endsDefaultScope []
  else match b.form with
    | none => b
    | some id =>
      let b := { b with form := none }
      if inScopeWhere endsDefaultScope (·.id == id) b.opened then b.closeAllImplied.removeOpen id
      else b

/-- Adds a drawing or a formula. -/
def insertForeign (b : Builder) (tag : Tag) (space : Space) : Builder :=
  if tag.selfClosing then b.insertClosed (tag.foreignElement space)
  else b.insert (tag.foreignElement space)

def startSelect (b : Builder) (tag : Tag) : Builder :=
  let mode := match b.mode with
    | .inTable | .inCaption | .inTableBody | .inRow | .inCell => Mode.inSelectInTable
    | _ => .inSelect
  ((b.reconstruct.insert tag.element).forbidFrames).inMode mode

/-- An opening tag within a body. -/
def bodyOpening (b : Builder) (tag : Tag) : Builder :=
  match String.ofList tag.name with
  | "html" => b.mergeRoot tag
  | "body" => b.mergeBody tag
  | "frameset" => b.replaceBody tag
  | "address" | "article" | "aside" | "blockquote" | "center" | "details" | "dialog" | "dir"
  | "div" | "dl" | "fieldset" | "figcaption" | "figure" | "footer" | "header" | "hgroup" | "main"
  | "menu" | "nav" | "ol" | "p" | "search" | "section" | "summary" | "ul" =>
    b.endParagraph.insert tag.element
  | "h1" | "h2" | "h3" | "h4" | "h5" | "h6" =>
    let b := b.endParagraph
    (if b.currentIs headingNames then b.pop else b).insert tag.element
  | "pre" | "listing" =>
    { (b.endParagraph.insert tag.element).forbidFrames with skipsLine := true }
  | "form" => b.startForm tag
  | "li" => b.startItem tag ["li"]
  | "dd" | "dt" => b.startItem tag ["dd", "dt"]
  | "plaintext" => { b.endParagraph.insert tag.element with content := .plain }
  | "button" =>
    let b := b.endBlock "button".toList endsDefaultScope []
    (b.reconstruct.insert tag.element).forbidFrames
  | "a" => b.endLink.reconstruct.insertFormatting tag
  | "b" | "big" | "code" | "em" | "font" | "i" | "s" | "small" | "strike" | "strong" | "tt"
  | "u" => b.reconstruct.insertFormatting tag
  | "nobr" =>
    let b := b.reconstruct
    if b.hasInScope endsDefaultScope ["nobr"] then
      (b.endFormatting tag.name).reconstruct.insertFormatting tag
    else b.insertFormatting tag
  | "applet" | "marquee" | "object" => (b.reconstruct.insert tag.element).addMarker.forbidFrames
  | "table" =>
    ((if b.old then b else b.endParagraph).insert tag.element).forbidFrames.inMode .inTable
  | "area" | "br" | "embed" | "img" | "keygen" | "wbr" =>
    (b.reconstruct.insertClosed tag.element).forbidFrames
  | "image" => (b.reconstruct.insertClosed { tag with name := "img".toList }.element).forbidFrames
  | "input" =>
    let b := b.reconstruct.insertClosed tag.element
    if (tag.attribute? "type").any (Text.sameIgnoringCase "hidden".toList) then b
    else b.forbidFrames
  | "param" | "source" | "track" => b.insertClosed tag.element
  | "hr" => (b.endParagraph.insertClosed tag.element).forbidFrames
  | "textarea" =>
    { b.forbidFrames.insertRaw tag.element (.references tag.name) with skipsLine := true }
  | "xmp" => b.endParagraph.reconstruct.forbidFrames.insertRaw tag.element (.raw tag.name)
  | "iframe" => b.forbidFrames.insertRaw tag.element (.raw tag.name)
  | "noembed" | "noscript" => b.insertRaw tag.element (.raw tag.name)
  | "select" => b.startSelect tag
  | "optgroup" | "option" =>
    ((if b.currentIs ["option"] then b.pop else b).reconstruct).insert tag.element
  | "rb" | "rtc" =>
    (if b.hasInScope endsDefaultScope ["ruby"] then b.closeAllImplied else b).insert tag.element
  | "rp" | "rt" =>
    (if b.hasInScope endsDefaultScope ["ruby"] then b.closeImplied "rtc".toList else b).insert
      tag.element
  | "math" => b.reconstruct.insertForeign tag .math
  | "svg" => b.reconstruct.insertForeign tag .svg
  | "caption" | "col" | "colgroup" | "frame" | "head" | "tbody" | "td" | "tfoot" | "th" | "thead"
  | "tr" => b
  | _ => b.reconstruct.insert tag.element

/-- A closing tag within a body. -/
def bodyClosing (b : Builder) (name : Text) : Outcome :=
  match String.ofList name with
  | "body" => .done (if b.hasInScope endsDefaultScope ["body"] then b.inMode .afterBody else b)
  | "html" =>
    if b.hasInScope endsDefaultScope ["body"] then .again (b.inMode .afterBody) else .done b
  | "address" | "article" | "aside" | "blockquote" | "button" | "center" | "details" | "dialog"
  | "dir" | "div" | "dl" | "fieldset" | "figcaption" | "figure" | "footer" | "header" | "hgroup"
  | "listing" | "main" | "menu" | "nav" | "ol" | "pre" | "search" | "section" | "summary" | "ul" =>
    .done (b.endBlock name endsDefaultScope [])
  | "form" => .done b.endForm
  | "p" =>
    let b := if b.hasInScope endsButtonScope ["p"] then b else b.insertNamed "p"
    .done b.closeParagraph
  | "li" => .done (b.endBlock name endsListScope name)
  | "dd" | "dt" => .done (b.endBlock name endsDefaultScope name)
  | "h1" | "h2" | "h3" | "h4" | "h5" | "h6" =>
    .done (if b.hasInScope endsDefaultScope headingNames then
      b.closeAllImplied.popThroughNamed headingNames else b)
  | "a" | "b" | "big" | "code" | "em" | "font" | "i" | "nobr" | "s" | "small" | "strike"
  | "strong" | "tt" | "u" => .done (b.endFormatting name)
  | "applet" | "marquee" | "object" =>
    .done (if inScopeWhere endsDefaultScope (·.name == htmlName name) b.opened then
      (b.closeAllImplied.popThrough (· = htmlName name)).clearToMarker else b)
  | "br" =>
    .done ((b.reconstruct.insertClosed ⟨htmlName name, .empty⟩).forbidFrames)
  | _ => .done (b.closeOther name)

def inBody (b : Builder) (token : Token) : Outcome :=
  match b.headTag? token with
  | some b => .done b
  | none =>
    match token with
    | .doctype _ | .nul => .done b
    | .blanks t => .done (b.reconstruct.insertText t)
    | .chars t => .done ((b.reconstruct.insertText t).forbidFrames)
    | .comment t => .done (b.insertComment t)
    | .opening tag => .done (b.bodyOpening tag)
    | .closing name => b.bodyClosing name
    | .finish => b.finish

def afterBody (b : Builder) (token : Token) : Outcome :=
  match token with
  | .doctype _ => .done b
  | .blanks _ => b.inBody token
  | .comment t =>
    match b.opened.getLast? with
    | some root => .done (b.insertCommentAt (.into root.id) t)
    | none => .done b
  | .opening tag =>
    if tag.name = "html".toList then .done (b.mergeRoot tag) else .again (b.inMode .inBody)
  | .closing name =>
    if name = "html".toList then .done (b.inMode .afterAfterBody) else .again (b.inMode .inBody)
  | .finish => .done { b with finished := true }
  | _ => .again (b.inMode .inBody)

def afterAfterBody (b : Builder) (token : Token) : Outcome :=
  match token with
  | .doctype _ => .done b
  | .blanks _ => b.inBody token
  | .comment t => .done (b.insertCommentAt .top t)
  | .opening tag =>
    if tag.name = "html".toList then .done (b.mergeRoot tag) else .again (b.inMode .inBody)
  | .finish => .done { b with finished := true }
  | _ => .again (b.inMode .inBody)

def rawFrames (b : Builder) (tag : Tag) : Builder :=
  b.insertRaw tag.element (.raw tag.name)

def inFrameset (b : Builder) (token : Token) : Outcome :=
  match token with
  | .blanks t => .done (b.insertText t)
  | .comment t => .done (b.insertComment t)
  | .opening tag =>
    match String.ofList tag.name with
    | "html" => .done (b.mergeRoot tag)
    | "frameset" => .done (b.insert tag.element)
    | "frame" => .done (b.insertClosed tag.element)
    | "noframes" => .done (b.rawFrames tag)
    | _ => .done b
  | .closing name =>
    if name ≠ "frameset".toList ∨ b.opened.length ≤ 1 then .done b
    else
      let b := b.pop
      .done (if b.currentIs ["frameset"] then b else b.inMode .afterFrameset)
  | .finish => .done { b with finished := true }
  | _ => .done b

def afterFrameset (b : Builder) (token : Token) : Outcome :=
  match token with
  | .blanks t => .done (b.insertText t)
  | .comment t => .done (b.insertComment t)
  | .opening tag =>
    match String.ofList tag.name with
    | "html" => .done (b.mergeRoot tag)
    | "noframes" => .done (b.rawFrames tag)
    | _ => .done b
  | .closing name => .done (if name = "html".toList then b.inMode .afterAfterFrameset else b)
  | .finish => .done { b with finished := true }
  | _ => .done b

def afterAfterFrameset (b : Builder) (token : Token) : Outcome :=
  match token with
  | .blanks _ => b.inBody token
  | .comment t => .done (b.insertCommentAt .top t)
  | .opening tag =>
    match String.ofList tag.name with
    | "html" => .done (b.mergeRoot tag)
    | "noframes" => .done (b.rawFrames tag)
    | _ => .done b
  | .finish => .done { b with finished := true }
  | _ => .done b

end Declutter.Html.Builder
