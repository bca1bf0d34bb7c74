import Declutter.Bridge.Channel
import Declutter.Bridge.Scope

namespace Declutter

/-- A way to call functions in the scripts of a page. -/
structure Bridge (β : Type) where
  call : β → (function : Text) → (args : List Text) → β × Except BridgeError Json

/-- A channel with the scope that answers at its other end. -/
structure Service (φ : Type) where
  channel : Channel
  scope : PageScope φ

namespace Service

variable {φ : Type} [Callable φ]

def ofScope (scope : PageScope φ) : Service φ := ⟨.fresh, scope⟩

/-- Answers the next request, if there is one. -/
def serveNext (s : Service φ) : Service φ :=
  match s.channel.receive with
  | (channel, .request r) =>
    let (scope, response) := s.scope.handle r
    ⟨(channel.respond response).1, scope⟩
  | _ => s

def serveTimes : (steps : Nat) → Service φ → Service φ
  | 0, s => s
  | steps + 1, s => serveTimes steps s.serveNext

/-- Answers all requests that have been sent. -/
def serve (s : Service φ) : Service φ :=
  serveTimes s.channel.queue.length s

/-- Makes a call, lets the scope answer it, and takes the answer. -/
def call (s : Service φ) (function : Text) (args : List Text) :
    Service φ × Except BridgeError Json :=
  let begun : Service φ := { s with channel := (s.channel.call function args).1 }
  let served := begun.serve
  match served.channel.poll begun.channel.lastId with
  | (channel, .finished result) => ({ served with channel }, result)
  | (channel, _) => ({ served with channel }, .error .disconnected)

def bridge : Bridge (Service φ) := ⟨call⟩

end Service

end Declutter
