import Declutter.Keyed
import Declutter.Rule.RuleSet

namespace Declutter

/-- A rule set in the making, with a table of the places of its patterns. -/
structure Filing where
  entries : RuleSet
  places : Keyed Text Nat
deriving DecidableEq, Repr

namespace Filing

def empty : Filing := ⟨[], .empty⟩

/-- What a category brings for a pattern. The site is there unless the pattern has a place. -/
structure Addition where
  pattern : Text
  site : Option SitePattern
  rules : List Rule
deriving DecidableEq, Repr

/-- The site of a pattern that has no place yet. -/
def site? (f : Filing) (pattern : Text) : Except DefinitionError (Option SitePattern) :=
  if (f.places.get? pattern).isSome then .ok none
  else match SitePattern.compile pattern with
    | .error e => .error (.inPattern pattern (.pattern e))
    | .ok site => .ok (some site)

def addition (r : Registry) (f : Filing) (category pattern : Text) (bodies : Json) :
    Except DefinitionError Addition :=
  match f.site? pattern with
  | .error e => .error e
  | .ok site =>
    match Rule.ofBodies r category bodies with
    | .error e => .error (.inPattern pattern e)
    | .ok rules => .ok ⟨pattern, site, rules⟩

/-- Puts rules behind those at the place of their pattern, or with their site at a new last
place. -/
def file (f : Filing) (a : Addition) : Filing :=
  match f.places.get? a.pattern, a.site with
  | some place, _ =>
    { f with entries := f.entries.modify place fun e => { e with rules := e.rules ++ a.rules } }
  | none, some site =>
    ⟨f.entries ++ [⟨site, a.rules⟩], f.places.put a.pattern f.entries.length⟩
  | none, none => f

/-- What a category brings, all of it read before any of it is filed. -/
def additions (r : Registry) (f : Filing) (c : Category) :
    Except DefinitionError (List Addition) :=
  match c.definitions with
  | .object patterns =>
    patterns.mapM fun (pattern, bodies) => f.addition r c.name pattern bodies
  | v => .error (.notDefinitions v)

/-- Adds all rules of a category, and tells how many there are. -/
def add (r : Registry) (f : Filing) (c : Category) : Filing × Except DefinitionError Nat :=
  match f.additions r c with
  | .error e => (f, .error e)
  | .ok additions =>
    (additions.foldl file f, .ok (additions.flatMap fun a => a.rules).length)

/-- Adds categories up to the first error. -/
def addAll (r : Registry) (f : Filing) : List Category → Except DefinitionError Filing
  | [] => .ok f
  | c :: rest =>
    match f.add r c with
    | (_, .error e) => .error e
    | (f, .ok _) => f.addAll r rest

def build (f : Filing) : RuleSet := f.entries

/-- The rule set of a list of categories. -/
def compile (r : Registry) (categories : List Category) : Except DefinitionError RuleSet :=
  (addAll r empty categories).map build

end Filing

end Declutter
