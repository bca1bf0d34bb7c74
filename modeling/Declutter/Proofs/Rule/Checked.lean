import Declutter.Proofs.Rule.Reading

namespace Declutter

open Traversal

def Condition.Checked (c : Condition) : Prop :=
  c.kind.check c.argument = .ok ()

/-- An action that has all it needs: a selector that can be read, an element unless it is a call,
and a path if it is one. -/
structure Action.Checked (a : Action) : Prop where
  selector : (Selector.read? a.selector).isSome = true
  target : a.isUntargeted = true → a.kind = .call
  args : a.kind = .call → a.args ≠ []

structure Rule.Checked (r : Rule) : Prop where
  conditions : ∀ c ∈ r.conditions, c.Checked
  actions : ∀ a ∈ r.actions, a.Checked

variable {registry : Registry}

namespace Rule

end Rule

namespace RuleSet

def Checked (s : RuleSet) : Prop :=
  ∀ e ∈ s, ∀ r ∈ e.rules, r.Checked

end RuleSet

end Declutter
