import Declutter.Rule.RuleSet
import Declutter.Settings

namespace Declutter

/-- A rule set with the categories that are switched off. -/
structure RuleIndex where
  entries : RuleSet
  disabled : List Text
deriving DecidableEq, Repr

namespace RuleIndex

/-- The rules of all patterns that accept a page. -/
def applicable (entries : RuleSet) (url : Text) : List Rule :=
  (entries.filter fun e => e.pattern.accepts url).flatMap Entry.rules

def ofEntries (entries : RuleSet) : RuleIndex := ⟨entries, []⟩

def disable (x : RuleIndex) (category : Text) : RuleIndex :=
  { x with disabled := category :: x.disabled }

def enable (x : RuleIndex) (category : Text) : RuleIndex :=
  { x with disabled := x.disabled.filter (· != category) }

def isEnabled (x : RuleIndex) (category : Text) : Bool :=
  !x.disabled.contains category

/-- A rule set under the switches of the settings. -/
def ofSettings (entries : RuleSet) (s : Settings) : RuleIndex where
  entries := entries
  disabled := (s.switches.entries.filter fun e => !e.2).map Prod.fst

def patternCount (x : RuleIndex) : Nat :=
  x.entries.length

def ruleCount (x : RuleIndex) : Nat :=
  x.entries.ruleCount

/-- The rules for a page whose categories are enabled. -/
def select (x : RuleIndex) (url : Text) : List Rule :=
  (applicable x.entries url).filter fun rule => x.isEnabled rule.category

end RuleIndex

end Declutter
