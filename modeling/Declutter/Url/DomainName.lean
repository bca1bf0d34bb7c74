import Declutter.Url.Punycode
import Declutter.Unicode.Bidi
import Declutter.Unicode.Joining
import Declutter.Unicode.Composition
import Declutter.Unicode.HostMapping

namespace Declutter.DomainName

open Unicode

/-- The ASCII characters that no domain name holds. -/
def isForbidden (c : Char) : Bool :=
  c.toNat ≤ 32 || c.toNat == 127 || "%#/:<>?@[\\]^|".toList.contains c

/-- Every character in the form of host names, composed; `none` where one may not stand. -/
def mapped? (t : Text) : Option Text :=
  (t.mapM hostForm?).map fun parts => composed parts.flatten

def encodedLead : Text := "xn--".toList

/-- The label that an encoded one stands for: it has a character past ASCII, and is in the form
that the mapping leaves alone. -/
def decoded? (encoded : Text) : Option Text :=
  if !encoded.all Text.isAscii then none
  else match Punycode.decode? encoded with
    | none => none
    | some label =>
      if label.all Text.isAscii ∨ !label.all isHostChar ∨ composed label ≠ label then none
      else some label

/-- Whether the nearest letter that is not transparent joins on the side of the joiner. -/
def joinsPast (joins : Joining → Bool) : Text → Bool
  | [] => false
  | c :: rest =>
    if joining c = .transparent then joinsPast joins rest else joins (joining c)

/-- Joiners stand after a virama, and the one that separates also between two joining letters. -/
def joinersFit : (before : Text) → Text → Bool
  | _, [] => true
  | before, c :: rest =>
    let afterVirama := match before with
      | p :: _ => combiningClass p.toNat == 9
      | [] => false
    let fits :=
      if c = '\u200d' then afterVirama
      else if c = '\u200c' then
        afterVirama ||
          (joinsPast (fun j => j = .left ∨ j = .dual) before &&
            joinsPast (fun j => j = .right ∨ j = .dual) rest)
      else true
    fits && joinersFit (c :: before) rest

/-- A label of a host name in its decoded form: it does not start with a mark, its joiners fit, and
it has no forbidden character. -/
def isLabel (label : Text) : Bool :=
  (match label with
    | c :: _ => !isMark c
    | [] => true) &&
    joinersFit [] label && !label.any isForbidden

def isRightToLeft (c : Char) : Bool :=
  match bidiClass c with
  | .right | .arabicLetter | .arabicNumber => true
  | _ => false

/-- The classes that stand in labels of both directions. -/
def isNeutral : BidiClass → Bool
  | .europeanNumber | .europeanSeparator | .commonSeparator | .europeanTerminator | .otherNeutral
  | .boundaryNeutral | .nonspacingMark => true
  | _ => false

/-- The direction rules for a label of a name that has right-to-left characters. -/
def isDirected (label : Text) : Bool :=
  let classes := label.map bidiClass
  let last := (classes.reverse.dropWhile (· = .nonspacingMark)).head?
  match classes with
  | [] => true
  | .left :: _ =>
    classes.all (fun k => k = .left || isNeutral k) &&
      (last = some .left || last = some .europeanNumber)
  | first :: _ =>
    (first = .right || first = .arabicLetter) &&
      classes.all (fun k => k = .right || k = .arabicLetter || k = .arabicNumber || isNeutral k) &&
      (last = some .right || last = some .arabicLetter || last = some .europeanNumber ||
        last = some .arabicNumber) &&
      !(classes.contains .europeanNumber && classes.contains .arabicNumber)

/-- The decoded form of a mapped label. -/
def label? (label : Text) : Option Text :=
  match encodedLead.isPrefixOf? label with
  | some encoded => (decoded? encoded).filter isLabel
  | none => if isLabel label then some label else none

/-- The labels of a domain name in their decoded form; `none` if it is not a domain name. -/
def labels? (name : Text) : Option (List Text) := do
  let mapped ← mapped? name
  let labels ← (Text.pieces (· == '.') mapped).mapM label?
  if labels.any (·.any isRightToLeft) && !labels.all isDirected then none
  else return labels

/-- Whether a name has neither characters past ASCII nor encoded labels. -/
def isPlain (name : Text) : Bool :=
  name.all Text.isAscii &&
    (Text.pieces (· == '.') name).all fun label =>
      (Text.afterIgnoringCase? encodedLead label).isNone

/-- The labels of a domain name as far as its characters decide; a plain name needs no mapping
but that of its letters. -/
def read? (name : Text) : Option (List Text) :=
  if isPlain name then
    if name.any isForbidden then none else some (Text.pieces (· == '.') (Text.lowered name))
  else labels? name

end Declutter.DomainName
