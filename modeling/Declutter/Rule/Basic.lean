import Declutter.Rule.Kind

namespace Declutter

/-- A condition as its rule writes it. -/
structure Condition where
  function : Text
  argument : Text
  kind : PredicateKind
deriving DecidableEq, Repr

def Condition.toText (c : Condition) : Text :=
  c.function ++ '(' :: c.argument ++ [')']

/-- An action as its rule writes it. -/
structure Action where
  selector : Text
  function : Text
  args : List Text
  kind : ActionKind
deriving DecidableEq, Repr

namespace Action

/-- What stands in place of a selector where an action has no element. -/
def noTarget : Text := "call".toList

def isUntargeted (a : Action) : Bool :=
  a.selector == noTarget

def toText (a : Action) : Text :=
  a.function ++ '(' :: List.intercalate ", ".toList a.args ++ ") on ".toList ++ a.selector

end Action

/-- Actions on a page under conditions. A rule is completed once one of its actions has had an
effect. -/
structure Rule where
  category : Text
  conditions : List Condition
  actions : List Action
  completed : Bool
deriving DecidableEq, Repr

end Declutter
