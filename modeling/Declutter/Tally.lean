import Declutter.Json.Decode
import Declutter.Text.Numeral

namespace Declutter

/-- How often each category was completed, up to the largest number of 32 bits. -/
structure Tally where
  counts : Keyed Text Nat
  bounded : ∀ e ∈ counts.entries, e.2 ≤ Text.maxWord32

namespace Tally

instance : DecidableEq Tally := fun a b =>
  decidable_of_iff (a.counts = b.counts)
    ⟨fun h => by cases a; cases b; cases h; rfl, fun h => by rw [h]⟩

instance : Repr Tally := ⟨fun t n => reprPrec t.counts n⟩

def empty : Tally := ⟨.empty, by simp [Keyed.empty]⟩

instance : Inhabited Tally := ⟨empty⟩

def get (t : Tally) (category : Text) : Nat :=
  (t.counts.get? category).getD 0

/-- Gives a category a count, held at the largest. -/
def put (t : Tally) (category : Text) (n : Nat) : Tally where
  counts := t.counts.put category (min n Text.maxWord32)
  bounded e h := by
    rcases Keyed.mem_putEntry h with rfl | h
    · exact Nat.min_le_right _ _
    · exact t.bounded e h

/-- Counts a category once more. -/
def increment (t : Tally) (category : Text) : Tally :=
  t.put category (t.get category + 1)

/-- The sum of all counts, held at the largest. -/
def total (t : Tally) : Nat :=
  t.counts.entries.foldl (fun sum e => Text.addUpTo Text.maxWord32 sum e.2) 0

def isEmpty (t : Tally) : Bool :=
  t.counts.entries.isEmpty

def toJson (t : Tally) : Json :=
  .object (t.counts.entries.map fun (category, n) => (category, .int n))

/-- The tally of counts by category, each held at the largest. -/
def ofKeyed (counts : Keyed Text Nat) : Tally :=
  counts.entries.foldl (fun t e => t.put e.1 e.2) empty

/-- The tally that a JSON text writes. -/
def read? (t : Text) : Option Tally :=
  ((Json.Source.read? t).bind
    (Json.Source.toKeyed? (fun _ => Json.Source.toNatural? Text.maxWord32)
      Json.Source.fullDepth)).map ofKeyed

end Tally

end Declutter
