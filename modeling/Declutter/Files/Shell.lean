import Declutter.Engine.Report
import Declutter.Json.Writer

namespace Declutter

/-- What a command can do outside itself. A file operation that fails tells why; the clock counts
microseconds. -/
structure Shell (m : Type → Type) where
  read : (path : Text) → m (Except Text Text)
  isThere : (path : Text) → m Bool
  write : (path : Text) → (content : Text) → m (Except Text Unit)
  print : (line : Text) → m Unit
  pause : (ms : Nat) → m Unit
  clock : m Nat

namespace Shell

/-- The path of a file in a folder. A path from the root stands for itself. -/
def joined (folder file : Text) : Text :=
  if file.head? = some '/' ∨ folder = [] then file
  else if folder.getLast? = some '/' then folder ++ file
  else folder ++ '/' :: file

/-- A tally in a file. Where there is no file, nothing is counted yet. -/
def tallyFile {m : Type → Type} [Monad m] (sh : Shell m) (path : Text) : TallyStore m where
  load := do
    if !(← sh.isThere path) then return .ok .empty
    match ← sh.read path with
    | .error reason => return .error (.read reason)
    | .ok t =>
      match Tally.read? t with
      | none => return .error (.read "not a tally".toList)
      | some tally => return .ok tally
  persist t := do
    return (← sh.write path t.toJson.pretty).mapError .write

end Shell

end Declutter
