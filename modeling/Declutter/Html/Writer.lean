import Declutter.Html.Names
import Declutter.Page.Basic

namespace Declutter.Html

/-- The elements that are written without an end tag. -/
def voidNames : List String :=
  ["area", "base", "basefont", "bgsound", "br", "col", "embed", "frame", "hr", "img", "input",
    "keygen", "link", "meta", "param", "source", "track", "wbr"]

/-- The elements whose text is written as it is. -/
def rawNames : List String :=
  ["style", "script", "xmp", "iframe", "noembed", "noframes", "plaintext"]

/-- A character of text between tags. -/
def escapedInText (c : Char) : Text :=
  if c = '&' then "&amp;".toList
  else if c = '\u00a0' then "&nbsp;".toList
  else if c = '<' then "&lt;".toList
  else if c = '>' then "&gt;".toList
  else [c]

/-- A character of the value of an attribute. -/
def escapedInValue (c : Char) : Text :=
  if c = '&' then "&amp;".toList
  else if c = '\u00a0' then "&nbsp;".toList
  else if c = '"' then "&quot;".toList
  else [c]

def writtenAttribute (name : AttributeName) (value : Text) : Text :=
  ' ' :: name.space.lead ++ name.name ++ '=' :: '"' :: value.flatMap escapedInValue ++ ['"']

def startTag (e : Element) : Text :=
  '<' :: e.name.name ++ e.attributes.entries.flatMap (fun a => writtenAttribute a.1 a.2) ++ ['>']

def endTag (e : Element) : Text :=
  '<' :: '/' :: e.name.name ++ ['>']

def writtenLeaf (raw : Bool) : Leaf → Text
  | .text t => if raw then t else t.flatMap escapedInText
  | .comment t => "<!--".toList ++ t ++ "-->".toList
  | .doctype name => "<!DOCTYPE ".toList ++ name ++ ['>']

/-- The markup of sibling nodes, whose text may stand as it is. -/
def written (raw : Bool) : Forest → Text
  | .nil => []
  | .leaf l rest => writtenLeaf raw l ++ written raw rest
  | .node _ .contents children rest => written raw children ++ written raw rest
  | .node _ (.element e) children rest =>
    let inner :=
      if isAmong voidNames e.name then []
      else written (isAmong rawNames e.name) children ++ endTag e
    startTag e ++ (inner ++ written raw rest)

end Declutter.Html

namespace Declutter

/-- The markup of a page. -/
def Page.toHtml (p : Page) : Text :=
  Html.written false p.forest

end Declutter
