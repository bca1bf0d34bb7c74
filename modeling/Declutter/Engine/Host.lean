import Declutter.Bridge.Service
import Declutter.Page.Edit

namespace Declutter

/-- The surroundings that rules run in: a page that can be searched and edited, its scripts, and
time. Any of it may change the state or fail. -/
structure Host (σ : Type) where
  Handle : Type
  find : σ → (selector : Text) → σ × Except PageError (Option Handle)
  apply : σ → Handle → Edit → σ × Except PageError Unit
  call : σ → (function : Text) → (args : List Text) → σ × Except BridgeError Json
  sleep : σ → (ms : Nat) → σ

/-- A page with a bridge to its scripts. Sleeping leaves both as they are. -/
def Host.ofPage {β : Type} (bridge : Bridge β) : Host (Page × β) where
  Handle := Nat
  find s selector := (s, s.1.select selector)
  apply s id e :=
    match s.1.apply id e with
    | .ok page => ((page, s.2), .ok ())
    | .error error => (s, .error error)
  call s function args :=
    let (next, result) := bridge.call s.2 function args
    ((s.1, next), result)
  sleep s _ := s

/-- What rules do in their surroundings. An attempt is an action that is about to have its
effect. -/
inductive Effect
  | lookup (selector : Text)
  | attempt (display : Text)
  | edit (e : Edit)
  | call (function : Text) (args : List Text) (result : Except BridgeError Json)
  | sleep (ms : Nat)

end Declutter
