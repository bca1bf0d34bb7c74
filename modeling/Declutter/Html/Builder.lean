import Declutter.Html.Names
import Declutter.Page.Draft

namespace Declutter.Html

/-- What part of a page is being read. -/
inductive Mode
  | initial
  | beforeHtml
  | beforeHead
  | inHead
  | afterHead
  | inBody
  | text
  | inTable
  | inTableText
  | inCaption
  | inColumnGroup
  | inTableBody
  | inRow
  | inCell
  | inSelect
  | inSelectInTable
  | inTemplate
  | afterBody
  | inFrameset
  | afterFrameset
  | afterAfterBody
  | afterAfterFrameset
deriving DecidableEq, Repr

/-- An element that is not closed yet. -/
structure OpenElement where
  id : Nat
  name : ElementName
deriving DecidableEq, Repr

/-- An open formatting element with its tag, or the border of a part of the page. -/
inductive Formatting
  | marker
  | entry (id : Nat) (tag : Tag)
deriving DecidableEq, Repr

/-- A page while its markup is read. The innermost open element and the latest formatting element
come first. -/
structure Builder where
  draft : Draft
  mode : Mode
  returnMode : Mode
  templateModes : List Mode
  opened : List OpenElement
  formatting : List Formatting
  head : Option Nat
  form : Option Nat
  framesAllowed : Bool
  fostering : Bool
  old : Bool
  tableText : List Token
  skipsLine : Bool
  content : Content
  finished : Bool

/-- What a token leads to: the next one, or the same one again. -/
inductive Outcome
  | done (b : Builder)
  | again (b : Builder)

namespace Builder

def start : Builder where
  draft := .empty
  mode := .initial
  returnMode := .initial
  templateModes := []
  opened := []
  formatting := []
  head := none
  form := none
  framesAllowed := true
  fostering := false
  old := false
  tableText := []
  skipsLine := false
  content := .data
  finished := false

def inMode (b : Builder) (mode : Mode) : Builder :=
  { b with mode }

/-- Where the children of an open element go. -/
def inside (e : OpenElement) : Place :=
  if isAmong ["template"] e.name then .into (e.id + 1) else .into e.id

/-- Whether the innermost open element is one of the named HTML elements. -/
def currentIs (b : Builder) (names : List String) : Bool :=
  b.opened.head?.any fun e => isAmong names e.name

def hasOpen (b : Builder) (name : String) : Bool :=
  b.opened.any fun e => isAmong [name] e.name

/-- Where misplaced parts of a table go: in front of the innermost table or into the innermost
template, whichever is further in. -/
def fosterPlace : List OpenElement → Place
  | [] => .top
  | [root] => inside root
  | e :: outer =>
    if isAmong ["template"] e.name then inside e
    else if isAmong ["table"] e.name then .before e.id
    else fosterPlace outer

/-- Where a node goes that belongs into an open element. -/
def placeIn (b : Builder) (target : OpenElement) : Place :=
  if b.fostering && isAmong tableNames target.name then fosterPlace b.opened else inside target

def place (b : Builder) : Place :=
  match b.opened with
  | e :: _ => b.placeIn e
  | [] => .top

def insertText (b : Builder) (t : Text) : Builder :=
  { b with draft := b.draft.addText b.place t }

def insertComment (b : Builder) (t : Text) : Builder :=
  { b with draft := b.draft.addLeaf b.place (.comment t) }

def insertCommentAt (b : Builder) (place : Place) (t : Text) : Builder :=
  { b with draft := b.draft.addLeaf place (.comment t) }

/-- Adds an element that has no content. -/
def insertClosed (b : Builder) (e : Element) : Builder :=
  { b with draft := b.draft.addElement b.place e }

/-- Adds an element that stays open. -/
def insert (b : Builder) (e : Element) : Builder :=
  { b with
    draft := b.draft.addElement b.place e
    opened := ⟨b.draft.next, e.name⟩ :: b.opened }

/-- Adds an element that no tag opens. -/
def insertNamed (b : Builder) (name : String) : Builder :=
  b.insert ⟨htmlName name.toList, .empty⟩

def pop (b : Builder) : Builder :=
  { b with opened := b.opened.drop 1 }

/-- Whether an element that satisfies `p` is open inside all that end a scope. -/
def inScopeWhere (ends : ElementName → Bool) (p : OpenElement → Bool) : List OpenElement → Bool
  | [] => false
  | e :: outer => p e || (!ends e.name && inScopeWhere ends p outer)

def hasInScope (b : Builder) (ends : ElementName → Bool) (names : List String) : Bool :=
  inScopeWhere ends (fun e => isAmong names e.name) b.opened

/-- Closes elements up to and with the innermost one of a kind; all if there is none. -/
def popThrough (b : Builder) (p : ElementName → Bool) : Builder :=
  { b with opened := (b.opened.dropWhile fun e => !p e.name).drop 1 }

def popThroughNamed (b : Builder) (names : List String) : Builder :=
  b.popThrough (isAmong names)

/-- Closes elements down to the innermost one of a kind. -/
def popTo (b : Builder) (p : ElementName → Bool) : Builder :=
  { b with opened := b.opened.dropWhile fun e => !p e.name }

/-- Closes the elements whose end may be left out, except those of a name. -/
def closeImplied (b : Builder) (except : Text) : Builder :=
  { b with
    opened := b.opened.dropWhile fun e => isAmong impliedNames e.name && e.name.name != except }

def closeAllImplied (b : Builder) : Builder :=
  b.closeImplied []

def closeThoroughly (b : Builder) : Builder :=
  { b with opened := b.opened.dropWhile fun e => isAmong thoroughNames e.name }

def closeParagraph (b : Builder) : Builder :=
  (b.closeImplied ['p']).popThroughNamed ["p"]

/-- Closes an open paragraph that a block cannot stand in. -/
def endParagraph (b : Builder) : Builder :=
  if b.hasInScope endsButtonScope ["p"] then b.closeParagraph else b

def removeOpen (b : Builder) (id : Nat) : Builder :=
  { b with opened := b.opened.filter fun e => e.id != id }

def forbidFrames (b : Builder) : Builder :=
  { b with framesAllowed := false }

/-- Adds an element whose content is not markup. -/
def insertRaw (b : Builder) (e : Element) (content : Content) : Builder :=
  { b.insert e with returnMode := b.mode, mode := .text, content }

/-- The place in the page that the open elements put the reader into, for the elements from one
outward. -/
def modeFor (b : Builder) : List OpenElement → Mode
  | [] => .inBody
  | e :: outer =>
    let last := outer.isEmpty
    if e.name.space ≠ .html then modeFor b outer
    else match String.ofList e.name.name with
      | "select" =>
        match outer.find? fun o => isAmong ["template", "table"] o.name with
        | some o => if isAmong ["table"] o.name then .inSelectInTable else .inSelect
        | none => .inSelect
      | "td" | "th" => if last then .inBody else .inCell
      | "tr" => .inRow
      | "tbody" | "thead" | "tfoot" => .inTableBody
      | "caption" => .inCaption
      | "colgroup" => .inColumnGroup
      | "table" => .inTable
      | "template" => b.templateModes.headD .inTemplate
      | "head" => if last then .inBody else .inHead
      | "body" => .inBody
      | "frameset" => .inFrameset
      | "html" => if b.head.isNone then .beforeHead else .afterHead
      | _ => modeFor b outer

def resetMode (b : Builder) : Builder :=
  b.inMode (b.modeFor b.opened)

end Builder

end Declutter.Html
