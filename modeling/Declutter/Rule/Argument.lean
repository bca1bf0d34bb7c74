import Declutter.Rule.Kind
import Declutter.Selector.Reader
import Declutter.Text.Numeral
import Declutter.Text.Quoted

namespace Declutter

/-- Why a text is no argument of a predicate. -/
inductive ArgumentError
  | selector (selector : Text)
  | path (argument : Text)
  | duration (argument : Text)
deriving DecidableEq, Repr

def ArgumentError.message : ArgumentError → Text
  | .selector s => "Invalid selector: ".toList ++ s
  | .path t => "Invalid global path: ".toList ++ t
  | .duration t => "Invalid duration: ".toList ++ t

namespace Argument

/-- The selector that an argument writes, with or without quotes. -/
def selector (t : Text) : Except ArgumentError Selector :=
  match Selector.read? (Text.unquote t) with
  | some s => .ok s
  | none => .error (.selector (Text.unquote t))

/-- The names in a path to a global value, with dots between them. -/
def path (t : Text) : Except ArgumentError (List Text) :=
  let segments := Text.pieces (· == '.') (Text.unquote t)
  if segments.any List.isEmpty then .error (.path t) else .ok segments

/-- A duration in milliseconds. -/
def duration (t : Text) : Except ArgumentError Nat :=
  match Text.natural? Text.maxWord64 (Text.unquote t) with
  | some n => .ok n
  | none => .error (.duration t)

end Argument

/-- Whether a text is an argument of a predicate. -/
def PredicateKind.check : PredicateKind → Text → Except ArgumentError Unit
  | .present, t => (Argument.selector t).map fun _ => ()
  | .defined, t => (Argument.path t).map fun _ => ()
  | .sleep, t => (Argument.duration t).map fun _ => ()

end Declutter
