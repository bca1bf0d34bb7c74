import Declutter.Proofs.Engine.Completion
import Declutter.Proofs.Engine.Latch
import Declutter.Proofs.Engine.Visit

namespace Declutter

namespace Visit

theorem isCompletion_of_mem_news {v : Visit} {r : Rule} {counts : Tally} {t : Report}
    (ht : t ∈ v.news r counts) : t.isCompletion = true := by
  unfold news at ht
  split at ht
  · rw [List.mem_singleton.mp ht]
    rfl
  · cases ht

end Visit

namespace Pass

variable {σ : Type} {h : Host σ} {s : σ} {counts : Tally} {rules : List Rule} {p : Pass σ}

/-- How rules are gone through in order, none of them failing: a completed one is skipped, and any
other is completed, counted and told of exactly if an action of its visit has had an effect. -/
inductive Through (h : Host σ) : σ → Tally → List Rule → Pass σ → Prop
  | done {s : σ} {counts : Tally} : Through h s counts [] ⟨s, ⟨[], counts⟩, [], [], none⟩
  | skip {s : σ} {counts : Tally} {r : Rule} {rest : List Rule} {later : Pass σ}
      (completed : r.completed = true) (onward : Through h s counts rest later) :
      Through h s counts (r :: rest)
        ⟨later.state, ⟨r :: later.engine.rules, later.engine.counts⟩, none :: later.visits,
          later.reports, later.error⟩
  | visit {s t : σ} {counts : Tally} {r : Rule} {rest : List Rule} {v : Visit} {later : Pass σ}
      (pending : r.completed = false) (through : Visit.Through h r s v.worked v.effects t)
      (well : v.error = none) (onward : Through h t (v.count r counts) rest later) :
      Through h s counts (r :: rest)
        ⟨later.state, ⟨v.latch r :: later.engine.rules, later.engine.counts⟩,
          some v :: later.visits, v.news r counts ++ later.reports, later.error⟩

/-- How a pass is aborted at the rule `r`. It leaves what the pass `before` over the rules in front
leaves, what the visit `v` of `r` does up to its failure, and the rules at the back as they were. -/
structure Abort (h : Host σ) (s : σ) (counts : Tally) (rules : List Rule) (p : Pass σ)
    (e : EvaluationError) (front : List Rule) (r : Rule) (back : List Rule) (before : Pass σ)
    (v : Visit) : Prop where
  split : rules = front ++ r :: back
  pending : r.completed = false
  alone : before = Engine.visitAll h s counts front
  through : Through h s counts front before
  fail : Visit.Fail h r before.state v.worked v.effects p.state e
  failed : v.error = some e
  rules : p.engine.rules = before.engine.rules ++ v.latch r :: back
  counts : p.engine.counts = v.count r before.engine.counts
  visits : p.visits = before.visits ++ some v :: back.map fun _ => none
  reports : p.reports = before.reports ++ v.news r before.engine.counts ++ [.failed e]

theorem Course.through (c : Course h s counts rules p) (well : p.error = none) :
    Through h s counts rules p := by
  induction c with
  | done => exact .done
  | skip completed onward ih => exact .skip completed (ih well)
  | abort => cases well
  | visit pending visit calm onward ih =>
    exact .visit pending (Visit.through_of_run visit calm) calm (ih well)

theorem Course.exists_abort (c : Course h s counts rules p) {e : EvaluationError}
    (failed : p.error = some e) :
    ∃ front r back before v, Abort h s counts rules p e front r back before v := by
  induction c with
  | done => cases failed
  | @skip s counts r rest later completed onward ih =>
    obtain ⟨front, q, back, before, v, a⟩ := ih failed
    have course : Course h s counts front before := a.alone ▸ Engine.visitAll_course h s counts front
    exact ⟨r :: front, q, back, _, v, congrArg (r :: ·) a.split, a.pending,
      (Course.skip completed course).eq_visitAll, .skip completed a.through, a.fail, a.failed,
      congrArg (r :: ·) a.rules, a.counts, congrArg (none :: ·) a.visits, a.reports⟩
  | @abort s t counts r rest v f pending visit error =>
    cases failed
    exact ⟨[], r, rest, _, v, rfl, pending, rfl, .done, Visit.fail_of_run visit error, error, rfl,
      rfl, rfl, rfl⟩
  | @visit s t counts r rest w later pending visit calm onward ih =>
    obtain ⟨front, q, back, before, v, a⟩ := ih failed
    have course : Course h t (w.count r counts) front before :=
      a.alone ▸ Engine.visitAll_course h t (w.count r counts) front
    refine ⟨r :: front, q, back, _, v, congrArg (r :: ·) a.split, a.pending,
      (Course.visit pending visit calm course).eq_visitAll,
      .visit pending (Visit.through_of_run visit calm) calm a.through, a.fail, a.failed,
      congrArg (w.latch r :: ·) a.rules, a.counts, congrArg (some w :: ·) a.visits, ?_⟩
    simp only [a.reports, List.append_assoc]

theorem Through.length_rules (t : Through h s counts rules p) :
    p.engine.rules.length = rules.length := by
  induction t with
  | done => rfl
  | skip _ _ ih => exact congrArg (· + 1) ih
  | visit _ _ _ _ ih => exact congrArg (· + 1) ih

/-- A pass that goes well tells only of completed rules. -/
theorem Through.isCompletion (t : Through h s counts rules p) :
    ∀ told ∈ p.reports, told.isCompletion = true := by
  induction t with
  | done => simp
  | skip _ _ ih => exact ih
  | visit _ _ _ _ ih =>
    intro told ht
    rcases List.mem_append.mp ht with ht | ht
    · exact Visit.isCompletion_of_mem_news ht
    · exact ih told ht

namespace Abort

variable {e : EvaluationError} {front : List Rule} {r : Rule} {back : List Rule} {before : Pass σ}
  {v : Visit}

/-- All that is done is done for the rules in front and for the one that fails. -/
theorem effects (a : Abort h s counts rules p e front r back before v) :
    p.effects = before.effects ++ v.effects := by
  have hv := effects_abort p.state p.engine v back p.reports p.error
  simp only [Pass.effects] at hv ⊢
  rw [a.visits, List.flatMap_append, hv]

theorem isLatched_iff (a : Abort h s counts rules p e front r back before v) :
    p.engine.isLatched front.length = true ↔
      (∃ deed reason, e = .action r.category deed reason) ∧ true ∈ v.worked := by
  have here : p.engine.rules[front.length]? = some (v.latch r) := by
    rw [a.rules, ← a.through.length_rules]
    simp
  rw [Engine.isLatched, here]
  exact a.fail.completes_iff

end Abort

end Pass

namespace Engine

/-- What a pass means. If it fails with an error, it is aborted at a rule, which is completed exactly
if it fails at an action and one before that has had an effect; the failure is told once, behind the
completions. If it does not fail, all rules have been gone through, and only completions are told. -/
theorem pass_abort_or_through {σ : Type} (h : Host σ) (x : Engine) (s : σ) :
    (∀ e, (x.pass h s).error = some e → ∃ front r back before v,
      (x.pass h s).Abort h s x.counts x.rules e front r back before v ∧
      (x.pass h s).effects = before.effects ++ v.effects ∧
      ((x.pass h s).engine.isLatched front.length = true ↔
        (∃ deed reason, e = .action r.category deed reason) ∧ true ∈ v.worked) ∧
      ∀ told ∈ before.reports ++ v.news r before.engine.counts, told.isCompletion = true) ∧
    ((x.pass h s).error = none → Pass.Through h s x.counts x.rules (x.pass h s) ∧
      ∀ told ∈ (x.pass h s).reports, told.isCompletion = true) := by
  have course := visitAll_course h s x.counts x.rules
  refine ⟨fun e failed => ?_, fun well => ?_⟩
  · obtain ⟨front, r, back, before, v, a⟩ := course.exists_abort failed
    refine ⟨front, r, back, before, v, a, a.effects, a.isLatched_iff, fun told ht => ?_⟩
    rcases List.mem_append.mp ht with ht | ht
    · exact a.through.isCompletion told ht
    · exact Visit.isCompletion_of_mem_news ht
  · have through := course.through well
    exact ⟨through, through.isCompletion⟩

/-- A rule behind `dismissal`, on the same page. -/
def restyling : Rule :=
  ⟨"offer".toList, [], [⟨"body".toList, "removeStyle".toList, [], .removeStyle⟩], false⟩

/-- The call of `dismissal` fails behind its edit: it is told of as completed and then as failed, and
`restyling` is not looked at. -/
theorem pass_dismissal_abort :
    ∃ e, ((ofRules [dismissal, restyling]).passIn mutePage).error = some e ∧
      ((ofRules [dismissal, restyling]).passIn mutePage).reports =
        [.completed dismissal.category 1, .failed e] ∧
      ((ofRules [dismissal, restyling]).passIn mutePage).visit? 1 = none ∧
      ∃ front r back before v, ((ofRules [dismissal, restyling]).passIn mutePage).Abort
        mutePage.host mutePage.state .empty [dismissal, restyling] e front r back before v := by
  refine ⟨_, rfl, rfl, rfl, ?_⟩
  obtain ⟨front, r, back, before, v, a, -⟩ :=
    (pass_abort_or_through mutePage.host (ofRules [dismissal, restyling]) mutePage.state).1 _ rfl
  exact ⟨front, r, back, before, v, a⟩

end Engine

end Declutter
