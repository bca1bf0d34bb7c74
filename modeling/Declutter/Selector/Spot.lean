import Declutter.Page.Forest

namespace Declutter

/-- An element with all that is below it. -/
structure Branch where
  id : Nat
  element : Element
  children : Forest
deriving DecidableEq, Repr

/-- An element among its siblings: the elements before it, nearest first, and all behind it. -/
structure Level extends Branch where
  before : List Branch
  after : Forest
deriving DecidableEq, Repr

/-- An element in a page, with the elements around it from the inside out. Only from outside the
contents of templates do they lead to the top of the page. -/
structure Spot extends Level where
  outer : List Level
  fromTop : Bool
deriving DecidableEq, Repr

namespace Forest

/-- The elements among siblings. -/
def branches : Forest → List Branch
  | .nil => []
  | .leaf _ rest => branches rest
  | .node _ .contents _ rest => branches rest
  | .node i (.element e) children rest => ⟨i, e, children⟩ :: branches rest

/-- The elements among siblings and below them in tree order, also in the contents of templates
if `entering`. -/
def spots (entering : Bool) (outer : List Level) (fromTop : Bool) :
    (before : List Branch) → Forest → List Spot
  | _, .nil => []
  | before, .leaf _ rest => spots entering outer fromTop before rest
  | before, .node _ .contents children rest =>
    (if entering then spots entering [] false [] children else []) ++
      spots entering outer fromTop before rest
  | before, .node i (.element e) children rest =>
    let here : Level := ⟨⟨i, e, children⟩, before, rest⟩
    ⟨here, outer, fromTop⟩ ::
      (spots entering (here :: outer) fromTop [] children ++
        spots entering outer fromTop (here.toBranch :: before) rest)

end Forest

namespace Spot

/-- The element before another among the same siblings. -/
def previous? (s : Spot) : Option Spot :=
  match s.before with
  | [] => none
  | b :: before =>
    some ⟨⟨b, before, .node s.id (.element s.element) s.children s.after⟩, s.outer, s.fromTop⟩

def earlierFrom : (steps : Nat) → Spot → List Spot
  | 0, _ => []
  | steps + 1, s =>
    match s.previous? with
    | none => []
    | some p => p :: earlierFrom steps p

/-- The elements before another among the same siblings, nearest first. -/
def earlier (s : Spot) : List Spot :=
  s.earlierFrom s.before.length

def parent? (s : Spot) : Option Spot :=
  match s.outer with
  | [] => none
  | l :: outer => some ⟨l, outer, s.fromTop⟩

def ancestorsFrom (fromTop : Bool) : List Level → List Spot
  | [] => []
  | l :: outer => ⟨l, outer, fromTop⟩ :: ancestorsFrom fromTop outer

/-- The elements around another from the inside out. -/
def ancestors (s : Spot) : List Spot :=
  ancestorsFrom s.fromTop s.outer

/-- The elements below another, and those behind it among its siblings with all below them. -/
def following (s : Spot) : List Spot :=
  s.children.spots false (s.toLevel :: s.outer) s.fromTop [] ++
    s.after.spots false s.outer s.fromTop (s.toBranch :: s.before)

/-- Whether no element is around it up to the top of the page. -/
def isRoot (s : Spot) : Bool :=
  s.outer.isEmpty && s.fromTop

/-- The position of an element among its siblings from one end, counted from 1. Only elements of
the same name count for a position of its type. -/
def position (ofType fromEnd : Bool) (s : Spot) : Nat :=
  let passed := if fromEnd then s.after.branches else s.before
  1 + passed.countP fun b => !ofType || b.element.name = s.element.name

end Spot

end Declutter
