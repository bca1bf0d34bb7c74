import Declutter.Html.Lexer
import Declutter.Html.Table

namespace Declutter.Html.Builder

/-- Handles a token by the part of the page that is being read. -/
def inMarkup (b : Builder) (token : Token) : Outcome :=
  match b.mode with
  | .initial => b.initial token
  | .beforeHtml => b.beforeHtml token
  | .beforeHead => b.beforeHead token
  | .inHead => b.inHead token
  | .afterHead => b.afterHead token
  | .inBody => b.inBody token
  | .text => b.rawContent token
  | .inTable => b.inTable token
  | .inTableText => b.inTableText token
  | .inCaption => b.inCaption token
  | .inColumnGroup => b.inColumnGroup token
  | .inTableBody => b.inTableBody token
  | .inRow => b.inRow token
  | .inCell => b.inCell token
  | .inSelect => b.inSelect token
  | .inSelectInTable => b.inSelectInTable token
  | .inTemplate => b.inTemplate token
  | .afterBody => b.afterBody token
  | .inFrameset => b.inFrameset token
  | .afterFrameset => b.afterFrameset token
  | .afterAfterBody => b.afterAfterBody token
  | .afterAfterFrameset => b.afterAfterFrameset token

/-- The tags that end drawings and formulas around them. -/
def endsForeign (tag : Tag) : Bool :=
  match String.ofList tag.name with
  | "b" | "big" | "blockquote" | "body" | "br" | "center" | "code" | "dd" | "div" | "dl" | "dt"
  | "em" | "embed" | "h1" | "h2" | "h3" | "h4" | "h5" | "h6" | "head" | "hr" | "i" | "img" | "li"
  | "listing" | "menu" | "meta" | "nobr" | "ol" | "p" | "pre" | "ruby" | "s" | "small" | "span"
  | "strong" | "strike" | "sub" | "sup" | "table" | "tt" | "u" | "ul" | "var" => true
  | "font" =>
    (tag.attribute? "color").isSome || (tag.attribute? "face").isSome ||
      (tag.attribute? "size").isSome
  | _ => false

def popForeign (b : Builder) : Builder :=
  b.popTo fun n => n.space = .html || isMathText n || isDrawingText n

/-- Closes an element of a drawing or formula, or leaves the tag to the markup around it. -/
def closeForeign (b : Builder) (name : Text) : (first : Bool) → List OpenElement → Outcome
  | _, [] | _, [_] => .done b
  | first, e :: outer =>
    if !first ∧ e.name.space = .html then b.inMarkup (.closing name)
    else if Text.sameIgnoringCase e.name.name name then .done { b with opened := outer }
    else b.closeForeign name false outer

/-- Handles a token inside a drawing or formula. -/
def inForeign (b : Builder) (token : Token) : Outcome :=
  match token with
  | .nul => .done (b.insertText ['\ufffd'])
  | .blanks t => .done (b.insertText t)
  | .chars t => .done (b.insertText t).forbidFrames
  | .comment t => .done (b.insertComment t)
  | .opening tag =>
    if endsForeign tag then b.popForeign.inMarkup token
    else match b.opened with
      | e :: _ => .done (b.insertForeign tag e.name.space)
      | [] => .done b
  | .closing name =>
    match String.ofList name with
    | "br" | "p" => b.popForeign.inMarkup token
    | _ => b.closeForeign name true b.opened
  | _ => .done b

/-- Whether a token belongs to the drawing or formula that is open. -/
def isForeign (b : Builder) (token : Token) : Bool :=
  match b.opened with
  | [] => false
  | e :: _ =>
    e.name.space ≠ .html &&
      match token with
      | .finish => false
      | .blanks _ | .chars _ | .nul => !isMathText e.name && !isDrawingText e.name
      | .opening tag =>
        !(isMathText e.name && tag.name != "mglyph".toList && tag.name != "malignmark".toList) &&
          !isDrawingText e.name &&
          !(e.name = ⟨.math, "annotation-xml".toList⟩ && tag.name == "svg".toList)
      | _ => true

/-- Handles a token until it is done with. -/
def handle : (steps : Nat) → Builder → Token → Builder
  | 0, b, _ => b
  | steps + 1, b, token =>
    match if b.isForeign token then b.inForeign token else b.inMarkup token with
    | .done b => b
    | .again b => handle steps b token

/-- The token without the line feed that an element starts with. -/
def skipLine : Token → Token
  | .blanks ('\n' :: rest) => .blanks rest
  | .chars ('\n' :: rest) => .chars rest
  | token => token

def isNothing : Token → Bool
  | .blanks [] | .chars [] => true
  | _ => false

/-- Takes in the next token. -/
def take (b : Builder) (token : Token) : Builder :=
  let token := if b.skipsLine then skipLine token else token
  let b := { b with skipsLine := false }
  if isNothing token then b
  else handle (4 * (b.opened.length + b.templateModes.length) + 32) b token

/-- Whether the innermost open element is outside HTML. -/
def isAbroad (b : Builder) : Bool :=
  b.opened.head?.any fun e => e.name.space ≠ .html

/-- Reads a text of at most `steps` pieces to its end. -/
def run : (steps : Nat) → Builder → Text → Builder
  | 0, b, _ => b
  | steps + 1, b, t =>
    if b.finished then b
    else match Html.read b.isAbroad b.content t with
      | (none, content, rest) => run steps { b with content } rest
      | (some token, content, rest) => run steps ({ b with content }.take token) rest

end Declutter.Html.Builder

namespace Declutter

/-- The page that an HTML text describes. -/
def Page.parse (source : Text) : Page :=
  let text := Html.normalized source
  (Html.Builder.run (2 * text.length + 4) .start text).draft.toPage

end Declutter
