import Declutter.Page.Forest

namespace Declutter

/-- A page: its top nodes with all that is below them, no number twice among them. -/
structure Page where
  forest : Forest
  unique : ∀ i, forest.ids.count i ≤ 1

namespace Page

/-- Whether a node is part of the page. -/
def has (p : Page) (id : Nat) : Bool :=
  (p.forest.holder? id).isSome

def element? (p : Page) (id : Nat) : Option Element :=
  p.forest.element? id

/-- The page without a node and all that is below it. -/
def without (p : Page) (id : Nat) : Page :=
  ⟨p.forest.prune id, fun i => Nat.le_trans (p.forest.count_prune_le id i) (p.unique i)⟩

/-- The page with one element changed. -/
def mapElement (p : Page) (id : Nat) (g : Element → Element) : Page :=
  ⟨p.forest.mapElement id g, fun i =>
    Nat.le_trans (p.forest.count_mapElement id i g) (p.unique i)⟩

end Page

end Declutter
