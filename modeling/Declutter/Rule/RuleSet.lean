import Declutter.Json.Decode
import Declutter.Rule.Definition

namespace Declutter

/-- The rules for the pages of a site pattern. -/
structure Entry where
  pattern : SitePattern
  rules : List Rule
deriving DecidableEq, Repr

/-- The definitions of a category of rules. -/
structure Category where
  name : Text
  definitions : Json
deriving DecidableEq, Repr

namespace Category

/-- The entry of a pattern with its bodies. -/
def entry (r : Registry) (category pattern : Text) (bodies : Json) :
    Except DefinitionError Entry :=
  match SitePattern.compile pattern with
  | .error e => .error (.inPattern pattern (.pattern e))
  | .ok p =>
    match Rule.ofBodies r category bodies with
    | .error e => .error (.inPattern pattern e)
    | .ok rules => .ok ⟨p, rules⟩

/-- The entries of a category, one for each of its patterns. -/
def compile (r : Registry) (c : Category) : Except DefinitionError (List Entry) :=
  match c.definitions with
  | .object patterns => patterns.mapM fun (pattern, bodies) => entry r c.name pattern bodies
  | v => .error (.notDefinitions v)

/-- The categories in an object of definitions. -/
def ofOverlay : Json → Except DefinitionError (List Category)
  | .object members => .ok (members.map fun (name, definitions) => ⟨name, definitions⟩)
  | v => .error (.notDefinitions v)

def ofSource? (depth : Nat) (s : Json.Source) : Option Category :=
  match s.toRecord? ["category".toList, "definitions".toList] depth with
  | some [some name, some definitions] =>
    match name.toText?, definitions.toValue? (depth - 1) with
    | some name, some definitions => some ⟨name, definitions⟩
    | _, _ => none
  | _ => none

/-- The list of categories that a JSON text writes. -/
def readAll? (t : Text) : Option (List Category) :=
  (Json.Source.read? t).bind (Json.Source.toItems? ofSource? Json.Source.fullDepth)

end Category

/-- Entries by pattern, in the order in which the patterns came. -/
abbrev RuleSet := List Entry

namespace RuleSet

/-- Puts the rules of an entry behind those of its pattern. -/
def file (e : Entry) : RuleSet → RuleSet
  | [] => [e]
  | held :: rest =>
    if held.pattern.raw = e.pattern.raw then { held with rules := held.rules ++ e.rules } :: rest
    else held :: file e rest

def ruleCount (s : RuleSet) : Nat :=
  (s.flatMap fun e => e.rules).length

/-- Adds all rules of a category, and tells how many there are; after an error, none is added. -/
def add (r : Registry) (s : RuleSet) (c : Category) : Except DefinitionError (RuleSet × Nat) :=
  (c.compile r).map fun entries =>
    (entries.foldl (fun s e => s.file e) s, ruleCount entries)

/-- Adds categories up to the first error. -/
def addAll (r : Registry) (s : RuleSet) : List Category → Except DefinitionError RuleSet
  | [] => .ok s
  | c :: rest =>
    match s.add r c with
    | .error e => .error e
    | .ok (s, _) => s.addAll r rest

/-- The rule set of a list of categories. -/
def compile (r : Registry) (categories : List Category) : Except DefinitionError RuleSet :=
  addAll r [] categories

/-- The place of a pattern in the rule set. -/
def position? (s : RuleSet) (pattern : Text) : Option Nat :=
  s.findIdx? fun e => e.pattern.raw == pattern

end RuleSet

end Declutter
