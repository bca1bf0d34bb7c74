import Declutter.Json.Value
import Declutter.Json.Writer
import Declutter.Rule.Expression
import Declutter.Site.Pattern

namespace Declutter

/-- Why definitions are not compiled. -/
inductive DefinitionError
  | notDefinitions (value : Json)
  | notBody (value : Json)
  | notGuard (key : Text)
  | notActions (value : Json)
  | notActionText (value : Json)
  | invalidSelector (selector : Text)
  | unknownAction (function : Text)
  | missingTarget (function selector : Text)
  | missingArgument (function : Text)
  | expression (e : ExpressionError)
  | pattern (e : InvalidPattern)
  | inPattern (pattern : Text) (e : DefinitionError)
deriving DecidableEq, Repr

namespace DefinitionError

def message : DefinitionError → Text
  | .notDefinitions v => "Unexpected definitions type, expected object: ".toList ++ v.compact
  | .notBody v => "Unexpected definition type, expected object: ".toList ++ v.compact
  | .notGuard key => "Invalid condition: ".toList ++ key
  | .notActions v => "Invalid actions type, expected object: ".toList ++ v.compact
  | .notActionText v => "Unexpected action type, expected string: ".toList ++ v.compact
  | .invalidSelector s => "Invalid action selector: ".toList ++ s
  | .unknownAction f => "Invalid action function: ".toList ++ f
  | .missingTarget f s =>
    "Action ".toList ++ f ++ " needs an element target, not ".toList ++ s
  | .missingArgument f => "Action ".toList ++ f ++ " needs a function path".toList
  | .expression e => e.message
  | .pattern e => e.message
  | .inPattern p e => e.message ++ " in ".toList ++ p

/-- The error inside all notes on where it stands. -/
def root : DefinitionError → DefinitionError
  | .inPattern _ e => e.root
  | e => e

end DefinitionError

namespace Rule

/-- The tokens of an expression in a definition. -/
def tokens (r : Registry) (t : Text) : Except DefinitionError (List Expression.Token) :=
  (Expression.tokens r t).mapError .expression

/-- The condition of a token in a guard, where literals have no place. -/
def guardCondition (key : Text) : Expression.Token → Except DefinitionError Condition
  | .call c => .ok c
  | .literal _ => .error (.notGuard key)

/-- The conditions of a guard, of which there is at least one. -/
def guard (r : Registry) (key : Text) : Except DefinitionError (List Condition) :=
  match tokens r key with
  | .error e => .error e
  | .ok [] => .error (.notGuard key)
  | .ok ts => ts.mapM (guardCondition key)

/-- The name of an action and the text of its arguments. -/
def actionParts (t : Text) : Text × Text :=
  match Text.cutAt Text.isBlank (Text.trim t) with
  | (function, some rest) => (function, Text.trimStart rest)
  | (function, none) => (function, [])

/-- The action of a name on a target, if the registry and the target allow it. -/
def targeted (r : Registry) (selector function : Text) (args : List Text) :
    Except DefinitionError Action :=
  if (Selector.read? selector).isNone then .error (.invalidSelector selector)
  else match r.action? function with
    | none => .error (.unknownAction function)
    | some kind =>
      if selector = Action.noTarget ∧ kind.needsTarget then
        .error (.missingTarget function selector)
      else if kind = .call ∧ args = [] then .error (.missingArgument function)
      else .ok ⟨selector, function, args, kind⟩

/-- The action that a member of an object writes: its selector, and its name with arguments. -/
def action (r : Registry) (selector : Text) : Json → Except DefinitionError Action
  | .text t =>
    let (function, rest) := actionParts t
    match tokens r rest with
    | .error e => .error e
    | .ok ts => targeted r selector function (ts.map Expression.Token.toText)
  | v => .error (.notActionText v)

/-- The rule of a member of a body: a guard with its actions, or a single action. -/
def ofMember (r : Registry) (category key : Text) (value : Json) : Except DefinitionError Rule :=
  if Expression.guardLead.isPrefixOf key then
    match guard r key, value with
    | .error e, _ => .error e
    | .ok conditions, .object members =>
      (members.mapM fun (selector, v) => action r selector v).map fun actions =>
        ⟨category, conditions, actions, false⟩
    | .ok _, value => .error (.notActions value)
  else (action r key value).map fun a => ⟨category, [], [a], false⟩

/-- The rules of a body in the order of its members. -/
def ofBody (r : Registry) (category : Text) : Json → Except DefinitionError (List Rule)
  | .object members => members.mapM fun (key, value) => ofMember r category key value
  | v => .error (.notBody v)

/-- The rules of one body or of each in a list. -/
def ofBodies (r : Registry) (category : Text) : Json → Except DefinitionError (List Rule)
  | .array bodies => (bodies.mapM (ofBody r category)).map List.flatten
  | body => ofBody r category body

end Rule

end Declutter
