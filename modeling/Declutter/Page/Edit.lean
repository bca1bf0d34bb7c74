import Declutter.Page.Basic
import Declutter.Page.Style
import Declutter.Selector.Matching
import Declutter.Selector.Reader

namespace Declutter

/-- Why a page does not do what it is asked for. -/
inductive PageError
  | invalidSelector (selector : Text)
  | stale
  | host (message : Text)
deriving DecidableEq, Repr

def PageError.message : PageError → Text
  | .invalidSelector s => "Invalid selector: ".toList ++ s
  | .stale => "Stale element handle".toList
  | .host m => m

/-- What can be done to an element of a page. -/
inductive Edit
  | remove
  | addClasses (names : List Text)
  | removeClasses (names : List Text)
  | clearClasses
  | appendStyle (declaration : Text)
  | clearStyle
deriving DecidableEq, Repr

namespace Selector

/-- The selector that a text has to write. -/
def parse (t : Text) : Except PageError Selector :=
  match read? t with
  | some s => .ok s
  | none => .error (.invalidSelector t)

end Selector

namespace Element

def withClasses (e : Element) (names : List Text) : Element :=
  e.withAttribute "class" (List.intercalate [' '] names)

def addName (names : List Text) (name : Text) : List Text :=
  if names.contains name then names else names ++ [name]

/-- Adds the class names that the element lacks. -/
def addClasses (names : List Text) (e : Element) : Element :=
  e.withClasses (names.foldl addName e.classes)

def removeClasses (names : List Text) (e : Element) : Element :=
  e.withClasses (e.classes.filter fun c => !names.contains c)

def clearClasses (e : Element) : Element :=
  e.withClasses []

def appendStyle (declaration : Text) (e : Element) : Element :=
  e.withAttribute "style" (Style.append e.style declaration)

def clearStyle (e : Element) : Element :=
  e.withAttribute "style" []

end Element

/-- What an edit makes of its element; none if the element goes away. -/
def Edit.change? : Edit → Option (Element → Element)
  | .remove => none
  | .addClasses names => some (Element.addClasses names)
  | .removeClasses names => some (Element.removeClasses names)
  | .clearClasses => some Element.clearClasses
  | .appendStyle declaration => some (Element.appendStyle declaration)
  | .clearStyle => some Element.clearStyle

namespace Page

/-- The elements of a page in tree order. -/
def spots (p : Page) : List Spot :=
  p.forest.spots true [] true []

/-- The numbers of the elements that a selector tells, in tree order. -/
def matching (p : Page) (s : Selector) : List Nat :=
  (p.spots.filter (s.holds none)).map fun spot => spot.id

/-- The oldest element that a selector tells. -/
def select (p : Page) (selector : Text) : Except PageError (Option Nat) :=
  (Selector.parse selector).map fun s => (p.matching s).min?

/-- The number of elements that a selector tells. -/
def count (p : Page) (selector : Text) : Except PageError Nat :=
  (Selector.parse selector).map fun s => (p.matching s).length

/-- What a function finds in an element that is still part of the page. -/
def inspect {α : Type} (p : Page) (id : Nat) (f : Element → α) : Except PageError α :=
  match p.element? id with
  | some e => .ok (f e)
  | none => .error .stale

def classes (p : Page) (id : Nat) : Except PageError (List Text) :=
  p.inspect id Element.classes

def style (p : Page) (id : Nat) : Except PageError Text :=
  p.inspect id Element.style

/-- The page after an edit of an element that is still part of it. -/
def apply (p : Page) (id : Nat) (e : Edit) : Except PageError Page :=
  p.inspect id fun _ =>
    match e.change? with
    | some g => p.mapElement id g
    | none => p.without id

end Page

end Declutter
