import Declutter.Html.Token
import Declutter.Page.Element

namespace Declutter.Html

def htmlName (name : Text) : ElementName :=
  ⟨.html, name⟩

/-- Whether a name is one of the named HTML elements. -/
def isAmong (names : List String) (n : ElementName) : Bool :=
  n.space = .html && names.any fun name => name.toList == n.name

/-- The elements of mathematics whose text is HTML. -/
def isMathText (n : ElementName) : Bool :=
  n.space = .math && ["mi", "mo", "mn", "ms", "mtext"].any fun name => name.toList == n.name

/-- The elements of drawings whose content is HTML. -/
def isDrawingText (n : ElementName) : Bool :=
  n.space = .svg && ["foreignObject", "desc", "title"].any fun name => name.toList == n.name

def endsDefaultScope (n : ElementName) : Bool :=
  isAmong ["applet", "caption", "html", "table", "td", "th", "marquee", "object", "template"] n ||
    isMathText n || isDrawingText n

def endsListScope (n : ElementName) : Bool :=
  endsDefaultScope n || isAmong ["ol", "ul"] n

def endsButtonScope (n : ElementName) : Bool :=
  endsDefaultScope n || isAmong ["button"] n

def endsTableScope : ElementName → Bool :=
  isAmong ["html", "table", "template"]

def endsSelectScope (n : ElementName) : Bool :=
  !isAmong ["optgroup", "option"] n

/-- The elements whose end may be left out. -/
def impliedNames : List String :=
  ["dd", "dt", "li", "option", "optgroup", "p", "rb", "rp", "rt", "rtc"]

/-- The elements that end with a template. -/
def thoroughNames : List String :=
  impliedNames ++ ["caption", "colgroup", "tbody", "td", "tfoot", "th", "thead", "tr"]

def headingNames : List String :=
  ["h1", "h2", "h3", "h4", "h5", "h6"]

def specialNames : List String :=
  ["address", "applet", "area", "article", "aside", "base", "basefont", "bgsound", "blockquote",
    "body", "br", "button", "caption", "center", "col", "colgroup", "dd", "details", "dir", "div",
    "dl", "dt", "embed", "fieldset", "figcaption", "figure", "footer", "form", "frame", "frameset",
    "h1", "h2", "h3", "h4", "h5", "h6", "head", "header", "hgroup", "hr", "html", "iframe", "img",
    "input", "isindex", "li", "link", "listing", "main", "marquee", "menu", "meta", "nav",
    "noembed", "noframes", "noscript", "object", "ol", "p", "param", "plaintext", "pre", "script",
    "search", "section", "select", "source", "style", "summary", "table", "tbody", "td",
    "template", "textarea", "tfoot", "th", "thead", "title", "tr", "track", "ul", "wbr", "xmp"]

/-- The elements that formatting does not reach across. -/
def isSpecial : ElementName → Bool :=
  isAmong specialNames

def tableNames : List String :=
  ["table", "tbody", "tfoot", "thead", "tr"]

/-- The names of drawings that are not written in lower case. -/
def drawingNames : List String :=
  ["altGlyph", "altGlyphDef", "altGlyphItem", "animateColor", "animateMotion", "animateTransform",
    "clipPath", "feBlend", "feColorMatrix", "feComponentTransfer", "feComposite",
    "feConvolveMatrix", "feDiffuseLighting", "feDisplacementMap", "feDistantLight", "feDropShadow",
    "feFlood", "feFuncA", "feFuncB", "feFuncG", "feFuncR", "feGaussianBlur", "feImage", "feMerge",
    "feMergeNode", "feMorphology", "feOffset", "fePointLight", "feSpecularLighting", "feSpotLight",
    "feTile", "feTurbulence", "foreignObject", "glyphRef", "linearGradient", "radialGradient",
    "textPath"]

def drawingAttributes : List String :=
  ["attributeName", "attributeType", "baseFrequency", "baseProfile", "calcMode", "clipPathUnits",
    "diffuseConstant", "edgeMode", "filterUnits", "glyphRef", "gradientTransform", "gradientUnits",
    "kernelMatrix", "kernelUnitLength", "keyPoints", "keySplines", "keyTimes", "lengthAdjust",
    "limitingConeAngle", "markerHeight", "markerUnits", "markerWidth", "maskContentUnits",
    "maskUnits", "numOctaves", "pathLength", "patternContentUnits", "patternTransform",
    "patternUnits", "pointsAtX", "pointsAtY", "pointsAtZ", "preserveAlpha", "preserveAspectRatio",
    "primitiveUnits", "refX", "refY", "repeatCount", "repeatDur", "requiredExtensions",
    "requiredFeatures", "specularConstant", "specularExponent", "spreadMethod", "startOffset",
    "stdDeviation", "stitchTiles", "surfaceScale", "systemLanguage", "tableValues", "targetX",
    "targetY", "textLength", "viewBox", "viewTarget", "xChannelSelector", "yChannelSelector",
    "zoomAndPan"]

/-- The spelling of a name that is among some spellings up to case. -/
def respelled (spellings : List String) (name : Text) : Text :=
  match spellings.find? fun s => Text.lowered s.toList == name with
  | some s => s.toList
  | none => name

/-- The attribute names that are in a namespace outside HTML. -/
def spacedAttributes : List (String × AttributeName) :=
  [("xlink:actuate", ⟨.link, "actuate".toList⟩), ("xlink:arcrole", ⟨.link, "arcrole".toList⟩),
    ("xlink:href", ⟨.link, "href".toList⟩), ("xlink:role", ⟨.link, "role".toList⟩),
    ("xlink:show", ⟨.link, "show".toList⟩), ("xlink:title", ⟨.link, "title".toList⟩),
    ("xlink:type", ⟨.link, "type".toList⟩), ("xml:lang", ⟨.xml, "lang".toList⟩),
    ("xml:space", ⟨.xml, "space".toList⟩), ("xmlns", ⟨.declaration, "xmlns".toList⟩),
    ("xmlns:xlink", ⟨.declarations, "xlink".toList⟩)]

/-- The name of an attribute of an element outside HTML. -/
def foreignAttribute (space : Space) (name : Text) : AttributeName :=
  match spacedAttributes.find? fun entry => entry.1.toList == name with
  | some (_, n) => n
  | none =>
    match space with
    | .svg => ⟨.none, respelled drawingAttributes name⟩
    | .math => ⟨.none, respelled ["definitionURL"] name⟩
    | .html => ⟨.none, name⟩

/-- The HTML element that a tag opens. -/
def Tag.element (t : Tag) : Element where
  name := htmlName t.name
  attributes := t.attributes.foldl (fun done (k, v) => done.putNew ⟨.none, k⟩ v) .empty

/-- The element outside HTML that a tag opens. -/
def Tag.foreignElement (t : Tag) (space : Space) : Element where
  name := ⟨space, if space = .svg then respelled drawingNames t.name else t.name⟩
  attributes := t.attributes.foldl
    (fun done (k, v) => done.putNew (foreignAttribute space k) v) .empty

/-- Whether two tags open the same element, in whatever order their attributes are. -/
def Tag.isLike (a b : Tag) : Bool :=
  a.name == b.name && a.element.attributes.entries == b.element.attributes.entries

/-- The starts of the public identifiers that stand for pages from before the standards. -/
def oldIdentifiers : List String :=
  ["-//advasoft ltd//dtd html 3.0 aswedit + extensions//",
    "-//as//dtd html 3.0 aswedit + extensions//",
    "-//ietf//dtd html 2.0 level 1//", "-//ietf//dtd html 2.0 level 2//",
    "-//ietf//dtd html 2.0 strict level 1//", "-//ietf//dtd html 2.0 strict level 2//",
    "-//ietf//dtd html 2.0 strict//", "-//ietf//dtd html 2.0//", "-//ietf//dtd html 2.1e//",
    "-//ietf//dtd html 3.0//", "-//ietf//dtd html 3.2 final//", "-//ietf//dtd html 3.2//",
    "-//ietf//dtd html 3//", "-//ietf//dtd html level 0//", "-//ietf//dtd html level 1//",
    "-//ietf//dtd html level 2//", "-//ietf//dtd html level 3//",
    "-//ietf//dtd html strict level 0//", "-//ietf//dtd html strict level 1//",
    "-//ietf//dtd html strict level 2//", "-//ietf//dtd html strict level 3//",
    "-//ietf//dtd html strict//", "-//ietf//dtd html//",
    "-//metrius//dtd metrius presentational//",
    "-//microsoft//dtd internet explorer 2.0 html strict//",
    "-//microsoft//dtd internet explorer 2.0 html//",
    "-//microsoft//dtd internet explorer 2.0 tables//",
    "-//microsoft//dtd internet explorer 3.0 html strict//",
    "-//microsoft//dtd internet explorer 3.0 html//",
    "-//microsoft//dtd internet explorer 3.0 tables//", "-//netscape comm. corp.//dtd html//",
    "-//netscape comm. corp.//dtd strict html//", "-//o'reilly and associates//dtd html 2.0//",
    "-//o'reilly and associates//dtd html extended 1.0//",
    "-//o'reilly and associates//dtd html extended relaxed 1.0//",
    "-//softquad software//dtd hotmetal pro 6.0::19990601::extensions to html 4.0//",
    "-//softquad//dtd hotmetal pro 4.0::19971010::extensions to html 4.0//",
    "-//spyglass//dtd html 2.0 extended//", "-//sq//dtd html 2.0 hotmetal + extensions//",
    "-//sun microsystems corp.//dtd hotjava html//",
    "-//sun microsystems corp.//dtd hotjava strict html//",
    "-//w3c//dtd html 3 1995-03-24//", "-//w3c//dtd html 3.2 draft//",
    "-//w3c//dtd html 3.2 final//", "-//w3c//dtd html 3.2//", "-//w3c//dtd html 3.2s draft//",
    "-//w3c//dtd html 4.0 frameset//", "-//w3c//dtd html 4.0 transitional//",
    "-//w3c//dtd html experimental 19960712//", "-//w3c//dtd html experimental 970421//",
    "-//w3c//dtd w3 html//", "-//w3o//dtd w3 html 3.0//", "-//webtechs//dtd mozilla html 2.0//",
    "-//webtechs//dtd mozilla html//"]

def oldWholeIdentifiers : List String :=
  ["-//w3o//dtd w3 html strict 3.0//en//", "-/w3c/dtd html 4.0 transitional/en", "html"]

def framedIdentifiers : List String :=
  ["-//w3c//dtd html 4.01 frameset//", "-//w3c//dtd html 4.01 transitional//"]

/-- Whether a doctype asks for the layout from before the standards. -/
def Doctype.isOld (d : Doctype) : Bool :=
  let starts (names : List String) : Bool := d.publicId.any fun id =>
    names.any fun n => n.toList.isPrefixOf (Text.lowered id)
  d.broken || d.name != some "html".toList ||
    (d.publicId.any fun id => oldWholeIdentifiers.any fun n => n.toList == Text.lowered id) ||
    (d.systemId.any fun id =>
      Text.lowered id == "http://www.ibm.com/data/dtd/v11/ibmxhtml1-transitional.dtd".toList) ||
    starts oldIdentifiers || (d.systemId.isNone && starts framedIdentifiers)

end Declutter.Html
