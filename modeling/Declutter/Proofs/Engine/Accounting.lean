import Declutter.Proofs.Engine.Reporting

namespace Declutter

theorem Visit.countP_isCompletion_news (v : Visit) (r : Rule) (counts : Tally) :
    (v.news r counts).countP Report.isCompletion = if v.completes then 1 else 0 := by
  unfold news
  split <;> rfl

theorem Visit.pending_latch (v : Visit) (r : Rule) :
    ((if v.completes then 1 else 0) + if !(v.latch r).completed then 1 else 0) = 1 := by
  cases hv : v.completes <;> simp [latch, hv]

namespace Pass

variable {σ : Type} {h : Host σ} {s : σ} {counts : Tally} {rules : List Rule} {p : Pass σ}

/-- A pass that is aborted at its first rule completes that one at most. -/
theorem completed_abort (t : σ) (x : Engine) (v : Visit) (rest : List Rule)
    (reports : List Report) (error : Option EvaluationError) :
    (⟨t, x, some v :: rest.map fun _ => none, reports, error⟩ : Pass σ).completed =
      if v.completes then 1 else 0 := by
  have unseen : (rest.map fun _ => (none : Option Visit)).countP
      (fun v => v.any Visit.completes) = 0 := by
    simp [List.countP_eq_zero]
  simp only [completed, List.countP_cons, unseen, Option.any_some, Nat.zero_add]

/-- A pass that does not fail looks at all rules that were pending. -/
theorem Course.evaluated_eq (c : Course h s counts rules p) (well : p.error = none) :
    p.evaluated = rules.countP fun r => !r.completed := by
  induction c with
  | done => rfl
  | skip completed onward ih => simpa [evaluated, List.countP_cons, completed] using ih well
  | abort => cases well
  | visit pending visit calm onward ih =>
    simpa [evaluated, List.countP_cons, pending] using ih well

/-- The rules that a pass completes, aborted or not, are those by which the pending ones are fewer. -/
theorem Course.completed_add_pending (c : Course h s counts rules p) :
    p.completed + p.engine.pending = rules.countP fun r => !r.completed := by
  induction c with
  | done => rfl
  | skip completed onward ih =>
    simpa [Pass.completed, Engine.pending, List.countP_cons, completed] using ih
  | @abort _ _ _ r rest v _ pending visit failed =>
    have here := v.pending_latch r
    simp only [completed_abort, Engine.pending, List.countP_cons, pending, Bool.not_false, if_true]
    omega
  | @visit _ _ _ r rest v _ pending visit calm onward ih =>
    have here := v.pending_latch r
    simp only [Pass.completed, Engine.pending, List.countP_cons, pending, Option.any_some,
      Bool.not_false, if_true] at ih ⊢
    omega

theorem Course.countP_isCompletion (c : Course h s counts rules p) :
    p.reports.countP Report.isCompletion = p.completed := by
  induction c with
  | done => rfl
  | skip completed onward ih => simpa [Pass.completed] using ih
  | abort pending visit failed =>
    rw [List.countP_append, Visit.countP_isCompletion_news, completed_abort]
    rfl
  | visit pending visit calm onward ih =>
    rw [List.countP_append, Visit.countP_isCompletion_news, ih, Pass.completed, Pass.completed,
      List.countP_cons, Option.any_some, Nat.add_comm]

end Pass

namespace Engine

variable {σ : Type}

/-- The number of rules that are completed. -/
def latched (x : Engine) : Nat :=
  x.rules.countP Rule.completed

theorem latched_add_pending (x : Engine) : x.latched + x.pending = x.rules.length := by
  simpa [latched, pending] using (List.length_eq_countP_add_countP Rule.completed).symm

theorem latched_pass (h : Host σ) (x : Engine) (s : σ) :
    (x.pass h s).engine.latched = x.latched + (x.pass h s).completed := by
  have before := x.latched_add_pending
  have after := (x.pass h s).engine.latched_add_pending
  have fewer := (visitAll_course h s x.counts x.rules).completed_add_pending
  have same := passIn_rules_length x ⟨σ, h, s⟩
  simp only [passIn] at same
  simp only [pass, pending] at *
  omega

/-- A pass over completed rules does nothing. -/
theorem visitAll_of_completed (h : Host σ) (s : σ) (counts : Tally) {rules : List Rule}
    (completed : ∀ r ∈ rules, r.completed = true) :
    visitAll h s counts rules = ⟨s, ⟨rules, counts⟩, rules.map fun _ => none, [], none⟩ := by
  induction rules with
  | nil => rfl
  | cons r rest ih =>
    obtain ⟨here, behind⟩ := List.forall_mem_cons.mp completed
    rw [visitAll, if_pos here, ih behind]
    rfl

theorem completed_of_isFinished {x : Engine} (finished : x.isFinished = true) :
    ∀ r ∈ x.rules, r.completed = true := by
  intro r hr
  have none : x.pending = 0 := by simpa [isFinished] using finished
  simpa using List.countP_eq_zero.mp none r hr

/-- The summary of a pass that goes well counts the rules that were pending, those of them that it
completes and tells of, and those that are left. Once no rule is pending, a pass does nothing to the
surroundings and tells nothing. -/
theorem outcome_accounts (h : Host σ) (x : Engine) (s : σ) :
    (∀ summary, (x.pass h s).outcome = .ok summary →
      summary.evaluated = x.pending ∧
      summary.pending = (x.pass h s).engine.pending ∧
      summary.completed = x.pending - (x.pass h s).engine.pending ∧
      (x.pass h s).engine.latched = x.latched + summary.completed ∧
      (x.pass h s).reports.countP Report.isCompletion = summary.completed ∧
      summary.evaluated = summary.completed + summary.pending) ∧
    (x.isFinished = true →
      x.pass h s = ⟨s, x, x.rules.map fun _ => none, [], none⟩ ∧
      (x.pass h s).effects = [] ∧
      (x.pass h s).outcome = .ok ⟨0, 0, 0⟩ ∧
      ∀ {m : Type → Type} [Monad m] [LawfulMonad m] (store : TallyStore m) (n : Notice),
        visitAllTelling store h s x.counts n x.rules = pure (x.pass h s, n)) := by
  have course := visitAll_course h s x.counts x.rules
  constructor
  · intro summary went
    have well : (x.pass h s).error = none := by
      cases he : (x.pass h s).error with
      | none => rfl
      | some e => simp [Pass.outcome, he] at went
    simp only [Pass.outcome, well, Except.ok.injEq] at went
    subst went
    have seen : (x.pass h s).evaluated = x.pending := course.evaluated_eq well
    have fewer : (x.pass h s).completed + (x.pass h s).engine.pending = x.pending :=
      course.completed_add_pending
    refine ⟨seen, rfl, ?_, latched_pass h x s, course.countP_isCompletion, ?_⟩
    · exact Nat.eq_sub_of_add_eq fewer
    · exact seen.trans fewer.symm
  · intro finished
    have idle : x.pass h s = ⟨s, x, x.rules.map fun _ => none, [], none⟩ :=
      visitAll_of_completed h s x.counts (completed_of_isFinished finished)
    have none : x.pending = 0 := by simpa [isFinished] using finished
    refine ⟨idle, ?_, ?_, ?_⟩
    · rw [idle]
      simp [Pass.effects, List.flatMap_eq_nil_iff]
    · rw [idle]
      simp [Pass.outcome, Pass.evaluated, Pass.completed, List.countP_eq_zero, none]
    · intro m _ _ store n
      have told := course.visitAllTelling_eq store n
      rw [told]
      have quiet : (visitAll h s x.counts x.rules).reports = [] := congrArg Pass.reports idle
      rw [quiet, Notice.takeAll, map_pure]
      rfl

/-- A page with nothing but what `dismissal` removes. -/
def barePage : Surroundings where
  State := Unit
  host := { mutePage.host with
    find := fun s selector => (s, .ok (if selector = ".modal".toList then some () else none)) }
  state := ()

/-- A rule that waits for the element that `dismissal` removes, and then for another one. -/
def unveiling : Rule :=
  ⟨"message".toList, [⟨"exists".toList, ".modal".toList, .present⟩,
    ⟨"exists".toList, ".veil".toList, .present⟩],
    [⟨".veil".toList, "remove".toList, [], .remove⟩], false⟩

/-- A rule that removes what `dismissal` looks for. -/
def removal : Rule :=
  ⟨"message".toList, [], [⟨".modal".toList, "remove".toList, [], .remove⟩], false⟩

/-- The completed rule is passed over. Of the three that are looked at, one has a guard that does not
hold, one finds nothing, and the last is completed. -/
theorem outcome_accounts_removal :
    let x := ofRules [{ dismissal with completed := true }, unveiling, restyling, removal]
    let p := x.passIn barePage
    p.outcome = .ok ⟨3, 1, 2⟩ ∧ x.pending = 3 ∧ p.engine.pending = 2 ∧
      p.engine.latched = x.latched + 1 ∧ p.reports.countP Report.isCompletion = 1 ∧
      ((ofRules [{ dismissal with completed := true }]).passIn barePage).effects = [] ∧
      visitAllTelling .memory barePage.host barePage.state .empty .empty
        [{ dismissal with completed := true }] =
          pure ((ofRules [{ dismissal with completed := true }]).passIn barePage, .empty) := by
  intro x p
  have went : p.outcome = .ok ⟨3, 1, 2⟩ := by decide +kernel
  obtain ⟨seen, left, -, latched, told, -⟩ :=
    (outcome_accounts barePage.host x barePage.state).1 _ went
  obtain ⟨-, still, -, silent⟩ := (outcome_accounts barePage.host
    (ofRules [{ dismissal with completed := true }]) barePage.state).2 (by decide)
  exact ⟨went, seen.symm, left.symm, latched, told, still, silent .memory .empty⟩

end Engine

end Declutter
