import Declutter.Keyed
import Declutter.Rule.Kind

namespace Declutter

/-- The names of predicates and actions that rules may use. -/
structure Registry where
  predicates : Keyed Text PredicateKind
  actions : Keyed Text ActionKind
deriving DecidableEq, Repr

namespace Registry

def empty : Registry := ⟨.empty, .empty⟩

def withPredicate (r : Registry) (name : Text) (k : PredicateKind) : Registry :=
  { r with predicates := r.predicates.put name k }

def withoutPredicate (r : Registry) (name : Text) : Registry :=
  { r with predicates := r.predicates.filterKeys (· != name) }

def withAction (r : Registry) (name : Text) (k : ActionKind) : Registry :=
  { r with actions := r.actions.put name k }

def withoutAction (r : Registry) (name : Text) : Registry :=
  { r with actions := r.actions.filterKeys (· != name) }

def predicate? (r : Registry) (name : Text) : Option PredicateKind :=
  r.predicates.get? name

def action? (r : Registry) (name : Text) : Option ActionKind :=
  r.actions.get? name

/-- Every kind under its own name. -/
def standard : Registry :=
  let r := PredicateKind.all.foldl (fun r k => r.withPredicate k.name k) empty
  ActionKind.all.foldl (fun r k => r.withAction k.name k) r

end Registry

end Declutter
