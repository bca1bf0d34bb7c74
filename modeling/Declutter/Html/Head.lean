import Declutter.Html.Formatting

namespace Declutter.Html.Builder

/-- The end of a template. -/
def endTemplate (b : Builder) : Builder :=
  if b.hasOpen "template" then
    let b := (b.closeThoroughly.popThroughNamed ["template"]).clearToMarker
    { b with templateModes := b.templateModes.drop 1 }.resetMode
  else b

def startTemplate (b : Builder) (tag : Tag) : Builder :=
  { b.addMarker.forbidFrames.insert tag.element with
    mode := .inTemplate, templateModes := .inTemplate :: b.templateModes }

/-- The tags of a head that may stand elsewhere too; `none` for all others. -/
def headTag? (b : Builder) : Token → Option Builder
  | .opening tag =>
    match String.ofList tag.name with
    | "base" | "basefont" | "bgsound" | "link" | "meta" => some (b.insertClosed tag.element)
    | "title" => some (b.insertRaw tag.element (.references tag.name))
    | "noframes" | "style" => some (b.insertRaw tag.element (.raw tag.name))
    | "script" => some (b.insertRaw tag.element .script)
    | "template" => some (b.startTemplate tag)
    | _ => none
  | .closing name => if name = "template".toList then some b.endTemplate else none
  | _ => none

/-- Fills in the attributes that the outermost element lacks. -/
def mergeRoot (b : Builder) (tag : Tag) : Builder :=
  if b.hasOpen "template" then b
  else match b.opened.getLast? with
    | some root =>
      { b with draft := b.draft.mapElement root.id (·.filledFrom tag.element.attributes) }
    | none => b

def initial (b : Builder) (token : Token) : Outcome :=
  match token with
  | .blanks _ => .done b
  | .comment t => .done (b.insertCommentAt .top t)
  | .doctype d =>
    .done { b with
      draft := b.draft.addLeaf .top (.doctype (d.name.getD []))
      old := d.isOld
      mode := .beforeHtml }
  | _ => .again { b with old := true, mode := .beforeHtml }

def beforeHtml (b : Builder) (token : Token) : Outcome :=
  let otherwise := Outcome.again ((b.insertNamed "html").inMode .beforeHead)
  match token with
  | .doctype _ | .blanks _ => .done b
  | .comment t => .done (b.insertCommentAt .top t)
  | .opening tag =>
    if tag.name = "html".toList then .done ((b.insert tag.element).inMode .beforeHead)
    else otherwise
  | .closing name =>
    match String.ofList name with
    | "head" | "body" | "html" | "br" => otherwise
    | _ => .done b
  | _ => otherwise

def openHead (b : Builder) (e : Element) : Builder :=
  { b.insert e with head := some b.draft.next, mode := .inHead }

def beforeHead (b : Builder) (token : Token) : Outcome :=
  let otherwise := Outcome.again (b.openHead ⟨htmlName "head".toList, .empty⟩)
  match token with
  | .doctype _ | .blanks _ => .done b
  | .comment t => .done (b.insertComment t)
  | .opening tag =>
    match String.ofList tag.name with
    | "html" => .done (b.mergeRoot tag)
    | "head" => .done (b.openHead tag.element)
    | _ => otherwise
  | .closing name =>
    match String.ofList name with
    | "head" | "body" | "html" | "br" => otherwise
    | _ => .done b
  | _ => otherwise

def inHead (b : Builder) (token : Token) : Outcome :=
  let otherwise := Outcome.again (b.pop.inMode .afterHead)
  match b.headTag? token with
  | some b => .done b
  | none =>
    match token with
    | .doctype _ => .done b
    | .blanks t => .done (b.insertText t)
    | .comment t => .done (b.insertComment t)
    | .opening tag =>
      match String.ofList tag.name with
      | "html" => .done (b.mergeRoot tag)
      | "noscript" => .done (b.insertRaw tag.element (.raw tag.name))
      | "head" => .done b
      | _ => otherwise
    | .closing name =>
      match String.ofList name with
      | "head" => .done (b.pop.inMode .afterHead)
      | "body" | "html" | "br" => otherwise
      | _ => .done b
    | _ => otherwise

/-- Puts a late part of the head into the head. -/
def lateHead (b : Builder) (token : Token) : Builder :=
  match b.head with
  | some id =>
    let opened := ⟨id, htmlName "head".toList⟩ :: b.opened
    let b := { b with opened }
    ((b.headTag? token).getD b).removeOpen id
  | none => (b.headTag? token).getD b

def afterHead (b : Builder) (token : Token) : Outcome :=
  let otherwise := Outcome.again ((b.insertNamed "body").inMode .inBody)
  match token with
  | .doctype _ => .done b
  | .blanks t => .done (b.insertText t)
  | .comment t => .done (b.insertComment t)
  | .opening tag =>
    match String.ofList tag.name with
    | "html" => .done (b.mergeRoot tag)
    | "body" => .done ((b.insert tag.element).forbidFrames.inMode .inBody)
    | "frameset" => .done ((b.insert tag.element).inMode .inFrameset)
    | "base" | "basefont" | "bgsound" | "link" | "meta" | "noframes" | "script" | "style"
    | "template" | "title" => .done (b.lateHead token)
    | "head" => .done b
    | _ => otherwise
  | .closing name =>
    match String.ofList name with
    | "template" => .done b.endTemplate
    | "body" | "html" | "br" => otherwise
    | _ => .done b
  | _ => otherwise

/-- The content of an element that is not markup, up to the end of the element. -/
def rawContent (b : Builder) (token : Token) : Outcome :=
  match token with
  | .blanks t | .chars t => .done (b.insertText t)
  | .closing _ => .done { b.pop with mode := b.returnMode, content := .data }
  | .finish => .again { b.pop with mode := b.returnMode, content := .data }
  | _ => .done b

end Declutter.Html.Builder
