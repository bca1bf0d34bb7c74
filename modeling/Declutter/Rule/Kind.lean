import Declutter.Text.Basic

namespace Declutter

/-- What a condition asks: whether the page has an element, whether its scripts define a value, or
to wait. -/
inductive PredicateKind
  | present
  | defined
  | sleep
deriving DecidableEq, Repr

namespace PredicateKind

def all : List PredicateKind :=
  [.present, .defined, .sleep]

/-- The name that a kind goes by where nothing else is told. -/
def name : PredicateKind → Text
  | .present => "$".toList
  | .defined => "defined".toList
  | .sleep => "sleep".toList

def ofName? (t : Text) : Option PredicateKind :=
  all.find? fun k => k.name == t

theorem ofName?_name (k : PredicateKind) : ofName? k.name = some k := by
  cases k <;> rfl

end PredicateKind

/-- What an action does to an element, or in the scripts of the page. -/
inductive ActionKind
  | remove
  | addClass
  | removeClass
  | addStyle
  | removeStyle
  | call
deriving DecidableEq, Repr

namespace ActionKind

def all : List ActionKind :=
  [.remove, .addClass, .removeClass, .addStyle, .removeStyle, .call]

/-- The name that a kind goes by where nothing else is told. -/
def name : ActionKind → Text
  | .remove => "remove".toList
  | .addClass => "addClass".toList
  | .removeClass => "removeClass".toList
  | .addStyle => "addStyle".toList
  | .removeStyle => "removeStyle".toList
  | .call => "call".toList

def ofName? (t : Text) : Option ActionKind :=
  all.find? fun k => k.name == t

theorem ofName?_name (k : ActionKind) : ofName? k.name = some k := by
  cases k <;> rfl

/-- Whether an action works on an element. -/
def needsTarget (k : ActionKind) : Bool :=
  k != .call

end ActionKind

end Declutter
