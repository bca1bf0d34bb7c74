import Declutter.Selector.Basic
import Declutter.Selector.Spot
import Declutter.Text.Ascii

namespace Declutter

namespace Series

/-- Whether a series reaches a position, which it does over at most 31 bits. -/
def reaches (s : Series) (position : Nat) : Bool :=
  let distance := (position : Int) - s.offset
  if s.step = 0 then distance == 0
  else distance ≤ 2147483647 && distance % s.step == 0 && 0 ≤ distance / s.step

end Series

namespace AttributeTest

/-- The attributes of HTML whose values are compared up to case. -/
def looseNames : List String :=
  ["accept", "accept-charset", "align", "alink", "axis", "bgcolor", "charset", "checked", "clear",
    "codetype", "color", "compact", "declare", "defer", "dir", "direction", "disabled", "enctype",
    "face", "frame", "hreflang", "http-equiv", "lang", "language", "link", "media", "method",
    "multiple", "nohref", "noresize", "noshade", "nowrap", "readonly", "rel", "rev", "rules",
    "scope", "scrolling", "selected", "shape", "target", "text", "type", "valign", "valuetype",
    "vlink"]

/-- Whether the value of an attribute stands in a relation to an operand. An empty text is no
part of a value, and only a word can be one of its words. -/
def related (o : AttributeOperator) (operand value : Text) : Bool :=
  match o with
  | .equal => value == operand
  | .word =>
    !operand.isEmpty && !operand.any Text.isAsciiBlank &&
      (Text.pieces Text.isAsciiBlank value).contains operand
  | .dash => value == operand || (operand ++ ['-']).isPrefixOf value
  | .start => !operand.isEmpty && operand.isPrefixOf value
  | .finish => !operand.isEmpty && operand.isSuffixOf value
  | .part => !operand.isEmpty && Text.includes operand value

/-- Whether letter case makes no difference to a test on an element of a vocabulary. -/
def isLoose (t : AttributeTest) (space : Space) : ValueCase → Bool
  | .ignored => true
  | .exact => false
  | .byName =>
    space = .html && !t.anySpace && looseNames.any fun n => n.toList == Text.lowered t.name

def acceptsValue (t : AttributeTest) (space : Space) (value : Text) : Bool :=
  match t.value with
  | none => true
  | some (o, operand, valueCase) =>
    if t.isLoose space valueCase then related o (Text.lowered operand) (Text.lowered value)
    else related o operand value

/-- A name as it is looked up on elements of a vocabulary: HTML knows only lower case. -/
def knownName (space : Space) (name : Text) : Text :=
  if space = .html then Text.lowered name else name

def accepts (t : AttributeTest) (e : Element) : Bool :=
  e.attributes.entries.any fun (key, value) =>
    (t.anySpace || key.space = .none) && key.name == knownName e.name.space t.name &&
      t.acceptsValue e.name.space value

end AttributeTest

namespace Selector

/-- Whether an element is one that a selector tells. Relative selectors start from the element of
the number `start`. -/
def holds (start : Option Nat) : Selector → Spot → Bool
  | .any, _ => true
  | .never, _ | .noSpace, _ => false
  | .typeName n, s => s.element.name.name == AttributeTest.knownName s.element.name.space n
  | .id v, s => s.element.attribute? "id" == some v
  | .cssClass n, s => s.element.classes.contains n
  | .attribute t, s => t.accepts s.element
  | .root, s => s.isRoot
  | .empty, s => s.children.isBare
  | .position series, s => series.reaches (s.position series.ofType series.fromEnd)
  | .anchor, s => start == some s.id
  | .both a b, s => holds start a s && holds start b s
  | .either a b, s => holds start a s || holds start b s
  | .negation a, s => !holds start a s
  | .relation c near far, s =>
    holds start far s &&
      match c with
      | .descendant => s.ancestors.any (holds start near)
      | .child => s.parent?.any (holds start near)
      | .adjacent => s.previous?.any (holds start near)
      | .later => s.earlier.any (holds start near)
  | .having relative, s => s.following.any (holds (some s.id) relative)

end Selector

end Declutter
