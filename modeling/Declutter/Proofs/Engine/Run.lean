import Declutter.Engine.Pass

namespace Declutter

/-- What a pass takes place in, which may be something else each time. -/
structure Surroundings where
  State : Type
  host : Host State
  state : State

def Rule.fresh (r : Rule) : Rule :=
  { r with completed := false }

namespace Visit

variable {σ : Type}

def latch (v : Visit) (r : Rule) : Rule :=
  { r with completed := v.completes }

theorem fresh_latch (v : Visit) (r : Rule) : (v.latch r).fresh = r.fresh := rfl

def count (v : Visit) (r : Rule) (counts : Tally) : Tally :=
  if v.completes then counts.increment r.category else counts

def news (v : Visit) (r : Rule) (counts : Tally) : List Report :=
  if v.completes then [.completed r.category (v.count r counts).total] else []

theorem completes_of_worked {v : Visit} {j : Nat} (h : v.worked[j]? = some true) :
    v.completes = true := by
  have hm : true ∈ v.worked := List.mem_of_getElem? h
  simpa [completes] using hm

end Visit

namespace Pass

variable {σ : Type}

/-- How a pass goes: completed rules are skipped, and the others are visited one after the other
until a visit fails. -/
inductive Course (h : Host σ) : σ → Tally → List Rule → Pass σ → Prop
  | done {s : σ} {counts : Tally} : Course h s counts [] ⟨s, ⟨[], counts⟩, [], [], none⟩
  | skip {s : σ} {counts : Tally} {r : Rule} {rest : List Rule} {later : Pass σ}
      (completed : r.completed = true) (onward : Course h s counts rest later) :
      Course h s counts (r :: rest)
        ⟨later.state, ⟨r :: later.engine.rules, later.engine.counts⟩, none :: later.visits,
          later.reports, later.error⟩
  | abort {s t : σ} {counts : Tally} {r : Rule} {rest : List Rule} {v : Visit}
      {e : EvaluationError} (pending : r.completed = false) (visit : Visit.run h r s = (t, v))
      (failed : v.error = some e) :
      Course h s counts (r :: rest)
        ⟨t, ⟨v.latch r :: rest, v.count r counts⟩, some v :: rest.map fun _ => none,
          v.news r counts ++ [.failed e], some e⟩
  | visit {s t : σ} {counts : Tally} {r : Rule} {rest : List Rule} {v : Visit} {later : Pass σ}
      (pending : r.completed = false) (visit : Visit.run h r s = (t, v))
      (well : v.error = none) (onward : Course h t (v.count r counts) rest later) :
      Course h s counts (r :: rest)
        ⟨later.state, ⟨v.latch r :: later.engine.rules, later.engine.counts⟩,
          some v :: later.visits, v.news r counts ++ later.reports, later.error⟩

/-- The visit of a rule in a pass, if it was looked at. -/
def visit? (p : Pass σ) (i : Nat) : Option Visit :=
  p.visits[i]?.join

/-- Whether an action of a rule has had its effect in a pass. -/
def worked (p : Pass σ) (i j : Nat) : Bool :=
  (p.visit? i).any fun v => v.worked[j]? == some true

def effectsOf (p : Pass σ) (i : Nat) : List Effect :=
  ((p.visit? i).map Visit.effects).getD []

/-- What is known of a pass apart from the state of its surroundings. -/
def record (p : Pass σ) : Pass Unit :=
  { p with state := () }

end Pass

namespace Engine

variable {σ : Type}

theorem visitAll_course (h : Host σ) (s : σ) (counts : Tally) (rules : List Rule) :
    Pass.Course h s counts rules (visitAll h s counts rules) := by
  induction rules generalizing s counts with
  | nil => exact .done
  | cons r rest ih =>
    cases hc : r.completed with
    | true =>
      simp only [visitAll, hc, if_true]
      exact .skip hc (ih s counts)
    | false =>
      rcases hv : Visit.run h r s with ⟨t, v⟩
      cases he : v.error with
      | some e =>
        simp only [visitAll, hc, hv, he, Bool.false_eq_true, if_false]
        exact .abort hc hv he
      | none =>
        simp only [visitAll, hc, hv, he, Bool.false_eq_true, if_false]
        exact .visit hc hv he (ih t (v.count r counts))

end Engine

theorem Pass.Course.eq_visitAll {σ : Type} {h : Host σ} {s : σ} {counts : Tally}
    {rules : List Rule} {p : Pass σ} (c : Course h s counts rules p) :
    p = Engine.visitAll h s counts rules := by
  induction c with
  | done => rfl
  | skip completed onward ih => simp [Engine.visitAll, completed, ← ih]
  | abort pending visit failed =>
    simp only [Engine.visitAll, pending, visit, failed, Bool.false_eq_true, if_false]
    rfl
  | visit pending visit well onward ih =>
    simp only [Engine.visitAll, pending, visit, well, Bool.false_eq_true, if_false]
    rw [ih]
    rfl

/-- A pass changes nothing of its rules but whether they are completed. -/
theorem Pass.Course.map_fresh {σ : Type} {h : Host σ} {s : σ} {counts : Tally}
    {rules : List Rule} {p : Pass σ} (c : Course h s counts rules p) :
    p.engine.rules.map Rule.fresh = rules.map Rule.fresh := by
  induction c with
  | done => rfl
  | skip _ _ ih => simp [ih]
  | abort => simp [Visit.fresh_latch]
  | visit _ _ _ _ ih => simp [Visit.fresh_latch, ih]

namespace Engine

def passIn (x : Engine) (w : Surroundings) : Pass w.State :=
  x.pass w.host w.state

theorem passIn_course (x : Engine) (w : Surroundings) :
    Pass.Course w.host w.state x.counts x.rules (x.passIn w) :=
  visitAll_course w.host w.state x.counts x.rules

/-- The engine after passes one after the other, each in surroundings of its own. -/
def after (x : Engine) : List Surroundings → Engine
  | [] => x
  | w :: ws => (x.passIn w).engine.after ws

/-- The passes one after the other, each in surroundings of its own. -/
def run (x : Engine) : List Surroundings → List (Pass Unit)
  | [] => []
  | w :: ws => (x.passIn w).record :: (x.passIn w).engine.run ws

theorem after_append (x : Engine) (ws us : List Surroundings) :
    x.after (ws ++ us) = (x.after ws).after us := by
  induction ws generalizing x with
  | nil => rfl
  | cons w ws ih => exact ih (x.passIn w).engine

theorem run_getElem? (x : Engine) (ws : List Surroundings) (k : Nat) :
    (x.run ws)[k]? = ws[k]?.map fun w => ((x.after (ws.take k)).passIn w).record := by
  induction ws generalizing x k with
  | nil => simp [run]
  | cons w ws ih =>
    cases k with
    | zero => simp [run, after]
    | succ k => simpa [run, after] using ih (x.passIn w).engine k

theorem passIn_map_fresh (x : Engine) (w : Surroundings) :
    (x.passIn w).engine.rules.map Rule.fresh = x.rules.map Rule.fresh :=
  (x.passIn_course w).map_fresh

theorem passIn_rules_length (x : Engine) (w : Surroundings) :
    (x.passIn w).engine.rules.length = x.rules.length := by
  simpa using congrArg List.length (x.passIn_map_fresh w)

theorem after_map_fresh (x : Engine) (ws : List Surroundings) :
    (x.after ws).rules.map Rule.fresh = x.rules.map Rule.fresh := by
  induction ws generalizing x with
  | nil => rfl
  | cons w ws ih => exact (ih (x.passIn w).engine).trans (x.passIn_map_fresh w)

/-- The engine behind a pass of a run is the one that the pass has left. -/
theorem after_take_succ {x : Engine} {ws : List Surroundings} {k : Nat} {w : Surroundings}
    (h : ws[k]? = some w) :
    x.after (ws.take (k + 1)) = ((x.after (ws.take k)).passIn w).engine := by
  rw [List.take_add_one, h, after_append]
  rfl

end Engine

end Declutter
