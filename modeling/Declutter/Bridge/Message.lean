import Declutter.Json.Decode
import Declutter.Text.Numeral

namespace Declutter

/-- A call of a function in the scripts of a page. -/
structure PageRequest where
  function : Text
  args : List Text
  id : Nat
deriving DecidableEq, Repr

/-- The answer to the request of the same number: a value, or what went wrong. -/
structure PageResponse where
  id : Nat
  result : Json
  error : Option Text
deriving DecidableEq, Repr

/-- Why a call of a page function gives no value. -/
inductive BridgeError
  | disconnected
  | unknownId (id : Nat)
  | remote (function message : Text)
deriving DecidableEq, Repr

def BridgeError.message : BridgeError → Text
  | .disconnected => "Page bridge disconnected".toList
  | .unknownId id => "No pending request for correlation id ".toList ++ Text.ofNat id
  | .remote f m => "Page function ".toList ++ f ++ " failed: ".toList ++ m

namespace PageRequest

def ofSource? (depth : Nat) (s : Json.Source) : Option PageRequest :=
  match s.toRecord? (["function", "args", "correlationId"].map String.toList) depth with
  | some [some function, some args, some id] => do
    some {
      function := ← function.toText?
      args := ← args.toItems? (fun _ => Json.Source.toText?) (depth - 1)
      id := ← id.toNatural? Text.maxWord64 }
  | _ => none

/-- The request that a JSON text writes. -/
def read? (t : Text) : Option PageRequest :=
  (Json.Source.read? t).bind (ofSource? Json.Source.fullDepth)

def toJson (r : PageRequest) : Json :=
  .object [("function".toList, .text r.function), ("args".toList, .array (r.args.map .text)),
    ("correlationId".toList, .int r.id)]

end PageRequest

namespace PageResponse

def success (id : Nat) (result : Json) : PageResponse := ⟨id, result, none⟩

def failure (id : Nat) (message : Text) : PageResponse := ⟨id, .null, some message⟩

/-- What a response means for a call of a function. -/
def outcome (r : PageResponse) (function : Text) : Except BridgeError Json :=
  match r.error with
  | some message => .error (.remote function message)
  | none => .ok r.result

def ofSource? (depth : Nat) (s : Json.Source) : Option PageResponse :=
  match s.toRecord? (["correlationId", "result", "error"].map String.toList) depth with
  | some [some id, result, error] => do
    some {
      id := ← id.toNatural? Text.maxWord64
      result := ← match result with
        | some result => result.toValue? (depth - 1)
        | none => some .null
      error := ← match error with
        | some error => error.toOptionalText?
        | none => some none }
  | _ => none

/-- The response that a JSON text writes. -/
def read? (t : Text) : Option PageResponse :=
  (Json.Source.read? t).bind (ofSource? Json.Source.fullDepth)

def toJson (r : PageResponse) : Json :=
  let error := match r.error with
    | some message => [("error".toList, .text message)]
    | none => []
  .object (("correlationId".toList, .int r.id) :: ("result".toList, r.result) :: error)

end PageResponse

end Declutter
