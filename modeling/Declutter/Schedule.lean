import Declutter.Text.Numeral

namespace Declutter

/-- Who added a node to a page: the rules themselves, or anything else. -/
inductive Origin
  | engine
  | external
deriving DecidableEq, Repr

/-- When the page is to be looked at again, in milliseconds. -/
structure Schedule where
  debounce : Nat
  deadline : Option Nat
  inFlight : Bool
  passes : Nat
deriving DecidableEq, Repr

namespace Schedule

def start (debounce : Nat) : Schedule := ⟨debounce, none, false, 0⟩

def isExternal (added : List Origin) : Bool :=
  added.contains .external

/-- Takes note of added nodes; those that the rules have not added put off the next pass. -/
def observe (s : Schedule) (added : List Origin) (now : Nat) : Schedule :=
  if isExternal added then { s with deadline := some (now + s.debounce) } else s

/-- Whether a pass is due. -/
def isDue (s : Schedule) (now : Nat) : Bool :=
  !s.inFlight && s.deadline.any (· ≤ now)

/-- Clears the deadline of a pass that is due. -/
def poll (s : Schedule) (now : Nat) : Schedule :=
  if s.isDue now then { s with deadline := none } else s

def beginPass (s : Schedule) : Schedule :=
  { s with inFlight := true }

def endPass (s : Schedule) : Schedule :=
  { s with inFlight := false, passes := s.passes + 1 }

/-- What is done with a schedule. -/
inductive Step
  | observe (added : List Origin) (now : Nat)
  | poll (now : Nat)
  | beginPass
  | endPass
deriving DecidableEq, Repr

/-- The schedule behind a step, whatever it adds up to. -/
def next (s : Schedule) : Step → Schedule
  | .observe added now => s.observe added now
  | .poll now => s.poll now
  | .beginPass => s.beginPass
  | .endPass => s.endPass

/-- The longest time that a clock holds, which counts seconds in 64 bits. -/
def maxTime : Nat := 1000 * Text.maxWord64 + 999

/-- Whether what a step adds up can be held: a deadline by a clock, and the number of passes in 64
bits. -/
def holds (s : Schedule) : Step → Bool
  | .observe added now => !isExternal added || now + s.debounce ≤ maxTime
  | .endPass => s.passes + 1 ≤ Text.maxWord64
  | _ => true

/-- Takes a step, unless a sum overflows. -/
def step (s : Schedule) (x : Step) : Option Schedule :=
  if s.holds x then some (s.next x) else none

end Schedule

end Declutter
