import Declutter.Engine.Visit
import Declutter.Tally

namespace Declutter

/-- What is told during a pass: a rule is completed, with the total on the page so far, or the pass
is aborted. -/
inductive Report
  | completed (category : Text) (total : Nat)
  | failed (e : EvaluationError)
deriving DecidableEq, Repr

/-- Why the tally of all times is not at hand. -/
inductive StoreError
  | read (reason : Text)
  | write (reason : Text)
deriving DecidableEq, Repr

def StoreError.message : StoreError → Text
  | .read reason => "Failed to read tally: ".toList ++ reason
  | .write reason => "Failed to write tally: ".toList ++ reason

/-- A place where the tally of all times is kept. -/
structure TallyStore (m : Type → Type) where
  load : m (Except StoreError Tally)
  persist : Tally → m (Except StoreError Unit)

/-- A store that holds its tally itself. -/
def TallyStore.memory : TallyStore (StateM Tally) where
  load := fun t => (.ok t, t)
  persist := fun new _ => (.ok (), new)

/-- What a user is shown of a page: the number on the badge, and how many passes failed. -/
structure Notice where
  badge : Nat
  failures : Nat
deriving DecidableEq, Repr

namespace Notice

def empty : Notice := ⟨0, 0⟩

/-- Counts a category once more in a store. -/
def accumulate {m : Type → Type} [Monad m] (store : TallyStore m) (category : Text) :
    m (Except StoreError Unit) := do
  match ← store.load with
  | .error e => return .error e
  | .ok t => store.persist (t.increment category)

/-- Takes a report in. The badge follows the page also where the store fails. -/
def take {m : Type → Type} [Monad m] (store : TallyStore m) (n : Notice) : Report → m Notice
  | .completed category total => do
    let _ ← accumulate store category
    return { n with badge := total }
  | .failed _ => return { n with failures := n.failures + 1 }

/-- Takes reports in, one after the other. -/
def takeAll {m : Type → Type} [Monad m] (store : TallyStore m) (n : Notice) :
    List Report → m Notice
  | [] => return n
  | r :: rest => do takeAll store (← take store n r) rest

end Notice

end Declutter
