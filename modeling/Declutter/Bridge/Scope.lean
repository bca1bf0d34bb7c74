import Declutter.Bridge.Message
import Declutter.Text.Quoted

namespace Declutter

/-- Functions that a page may define: a call gives a value or fails, and may leave the function in
another state, and with it those that share a part of this state. -/
class Callable (φ : Type) where
  apply : φ → List Text → φ × Except Text Json
  /-- Another function behind a call that has left the called one as it is given. -/
  affect : (called other : φ) → φ := fun _ other => other

/-- The global values and functions of a page. -/
structure PageScope (φ : Type) where
  globals : Json
  functions : Keyed Text φ

namespace PageScope

variable {φ : Type}

def ofGlobals (globals : Json) : PageScope φ := ⟨globals, .empty⟩

/-- Puts a function at a path. -/
def define (s : PageScope φ) (path : Text) (f : φ) : PageScope φ :=
  { s with functions := s.functions.put path f }

/-- The part of a value that a segment of a path leads to. -/
def member? (v : Json) (segment : Text) : Option Json :=
  match v with
  | .object members => members.lookup segment
  | .array items => (Text.natural? Text.maxWord64 segment).bind fun n => items[n]?
  | _ => none

/-- The part of a value at the end of a path. -/
def walk (v : Json) : (segments : List Text) → Option Json
  | [] => some v
  | segment :: rest => (member? v segment).bind fun w => walk w rest

/-- The global value at a path. -/
def resolve? (s : PageScope φ) (path : Text) : Option Json :=
  if (Text.unquote path).isEmpty then none
  else walk s.globals (Text.pieces (· == '.') (Text.unquote path))

/-- Whether there is a function or a value at a path, be it null. -/
def isDefined (s : PageScope φ) (path : Text) : Bool :=
  (s.functions.get? (Text.unquote path)).isSome || (s.resolve? path).isSome

/-- The scope behind a call that has left the function at a path as it is given. -/
def settle [Callable φ] (s : PageScope φ) (path : Text) (called : φ) : PageScope φ :=
  { s with functions := (s.functions.map (Callable.affect called)).put path called }

/-- Calls the function at a path. -/
def invoke [Callable φ] (s : PageScope φ) (id : Nat) (path : Text) (args : List Text) :
    PageScope φ × PageResponse :=
  match s.functions.get? (Text.unquote path) with
  | none => (s, .failure id (path ++ " is not a function".toList))
  | some f =>
    let (f, result) := Callable.apply f args
    let s := s.settle (Text.unquote path) f
    match result with
    | .ok v => (s, .success id v)
    | .error message => (s, .failure id message)

/-- Answers a request: `defined` asks for a path, `call` calls the function at one. -/
def handle [Callable φ] (s : PageScope φ) (r : PageRequest) : PageScope φ × PageResponse :=
  if r.function = "defined".toList then
    match r.args with
    | path :: _ => (s, .success r.id (.bool (s.isDefined path)))
    | [] => (s, .failure r.id "defined() needs a path".toList)
  else if r.function = "call".toList then
    match r.args with
    | path :: args => s.invoke r.id path args
    | [] => (s, .failure r.id "call() needs a path".toList)
  else (s, .failure r.id ("Unknown page function: ".toList ++ r.function))

end PageScope

end Declutter
