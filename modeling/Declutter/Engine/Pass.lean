import Declutter.Engine.Report

namespace Declutter

/-- The rules for a page with the tally of those that are completed. -/
structure Engine where
  rules : List Rule
  counts : Tally
deriving DecidableEq, Repr

/-- The numbers of rules that a pass has looked at, completed, and left over. -/
structure Summary where
  evaluated : Nat
  completed : Nat
  pending : Nat
deriving DecidableEq, Repr

/-- What a pass leaves behind. There is a visit for each rule that was looked at. -/
structure Pass (σ : Type) where
  state : σ
  engine : Engine
  visits : List (Option Visit)
  reports : List Report
  error : Option EvaluationError

namespace Engine

def ofRules (rules : List Rule) : Engine := ⟨rules, .empty⟩

/-- The number of rules that are not completed. -/
def pending (x : Engine) : Nat :=
  x.rules.countP fun r => !r.completed

def isFinished (x : Engine) : Bool :=
  x.pending == 0

/-- Visits the rules that are not completed, in order, up to the first error. A rule that has had
an effect is completed also if it fails later. -/
def visitAll {σ : Type} (h : Host σ) (s : σ) (counts : Tally) : List Rule → Pass σ
  | [] => ⟨s, ⟨[], counts⟩, [], [], none⟩
  | r :: rest =>
    if r.completed then
      let later := visitAll h s counts rest
      { later with
        engine := { later.engine with rules := r :: later.engine.rules }
        visits := none :: later.visits }
    else
      let (s, v) := Visit.run h r s
      let r := { r with completed := v.completes }
      let counts := if v.completes then counts.increment r.category else counts
      let news := if v.completes then [.completed r.category counts.total] else []
      match v.error with
      | some e =>
        ⟨s, ⟨r :: rest, counts⟩, some v :: rest.map fun _ => none, news ++ [.failed e], some e⟩
      | none =>
        let later := visitAll h s counts rest
        { later with
          engine := { later.engine with rules := r :: later.engine.rules }
          visits := some v :: later.visits
          reports := news ++ later.reports }

/-- One pass over the rules. -/
def pass {σ : Type} (h : Host σ) (x : Engine) (s : σ) : Pass σ :=
  visitAll h s x.counts x.rules

end Engine

namespace Pass

variable {σ : Type}

/-- All that was done, in order. -/
def effects (p : Pass σ) : List Effect :=
  p.visits.flatMap fun v => (v.map Visit.effects).getD []

def evaluated (p : Pass σ) : Nat :=
  p.visits.countP Option.isSome

def completed (p : Pass σ) : Nat :=
  p.visits.countP fun v => v.any Visit.completes

/-- The outcome of a pass: what it has achieved, or why it was aborted. -/
def outcome (p : Pass σ) : Except EvaluationError Summary :=
  match p.error with
  | some e => .error e
  | none => .ok ⟨p.evaluated, p.completed, p.engine.pending⟩

end Pass

end Declutter
