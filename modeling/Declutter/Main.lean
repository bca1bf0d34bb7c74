import Declutter.Command.Run
import Declutter.Text.Utf8

namespace Declutter

/-- What the operating system says about a failure. -/
def osReason (e : IO.Error) : Text :=
  match e with
  | .noFileOrDirectory _ code details | .inappropriateType (some _) code details
  | .permissionDenied _ code details | .alreadyExists _ code details
  | .invalidArgument _ code details | .resourceExhausted _ code details =>
    (details ++ " (os error " ++ toString code ++ ")").toList
  | e => (toString e).toList

def attempt {α : Type} (action : IO α) : IO (Except Text α) := do
  match ← action.toBaseIO with
  | .ok a => return .ok a
  | .error e => return .error (osReason e)

def readText (path : Text) : IO (Except Text Text) := do
  match ← attempt (IO.FS.readBinFile (String.ofList path)) with
  | .error reason => return .error reason
  | .ok bytes =>
    match Text.ofBytes? (bytes.toList.map UInt8.toNat) with
    | some t => return .ok t
    | none => return .error "stream did not contain valid UTF-8".toList

def isThere (path : Text) : IO Bool := do
  match ← attempt (IO.FS.Handle.mk (String.ofList path) .read) with
  | .ok _ => return true
  | .error _ => return false

/-- The shell of the operating system. -/
def systemShell : Shell IO where
  read := readText
  isThere := isThere
  write path content := attempt (IO.FS.writeFile (String.ofList path) (String.ofList content))
  print line := IO.println (String.ofList line)
  pause ms := IO.sleep ms.toUInt32
  clock := return (← IO.monoNanosNow) / 1000

end Declutter

open Declutter in
/-- Runs the command that the arguments tell. -/
def main (args : List String) : IO UInt32 := do
  match Invocation.parse? (args.map String.toList) with
  | none =>
    IO.eprintln "Usage: declutter [-v] [--settings FILE] check|rules|run OPTIONS"
    return 2
  | some invocation =>
    match ← (Command.execute systemShell invocation).run with
    | .ok () => return 0
    | .error e =>
      let reason := e.message "not the JSON text that is expected".toList
      IO.eprintln ("Error: " ++ String.ofList reason)
      return 1
