import Declutter.Json.Decode
import Declutter.Json.Writer
import Declutter.Text.Numeral

namespace Declutter

/-- What the user chooses: how long a page has to rest before it is looked at again, which
categories there are, and which of them are switched. -/
structure Settings where
  debounceMs : Nat
  categories : List Text
  switches : Keyed Text Bool
deriving DecidableEq, Repr

namespace Settings

def standard : Settings where
  debounceMs := 500
  categories := ["offer", "paywall", "email", "signup", "consent", "donate", "message"].map
    String.toList
  switches := .empty

/-- A category without a switch is enabled. -/
def isEnabled (s : Settings) (category : Text) : Bool :=
  (s.switches.get? category).getD true

def fields : List Text :=
  ["debounceMs", "categories", "enabledCategories"].map String.toList

/-- Reads one part of the settings, which may be missing. -/
def part? {α : Type} (standard : α) (each : Json.Source → Option α) :
    Option Json.Source → Option α
  | none => some standard
  | some s => each s

def ofSource? (depth : Nat) (s : Json.Source) : Option Settings :=
  match s.toRecord? fields depth with
  | some [debounce, categories, switches] => do
    some {
      debounceMs := ← part? standard.debounceMs (Json.Source.toNatural? Text.maxWord64) debounce
      categories := ← part? standard.categories
        (Json.Source.toItems? (fun _ => Json.Source.toText?) (depth - 1)) categories
      switches := ← part? standard.switches
        (Json.Source.toKeyed? (fun _ => Json.Source.toBool?) (depth - 1)) switches }
  | _ => none

/-- The settings that a JSON text writes. -/
def read? (t : Text) : Option Settings :=
  (Json.Source.read? t).bind (ofSource? Json.Source.fullDepth)

def toJson (s : Settings) : Json :=
  .object [
    ("debounceMs".toList, .int s.debounceMs),
    ("categories".toList, .array (s.categories.map .text)),
    ("enabledCategories".toList,
      .object (s.switches.entries.map fun (category, on) => (category, .bool on)))]

end Settings

end Declutter
