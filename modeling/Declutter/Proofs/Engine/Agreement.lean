import Declutter.Proofs.Engine.Completion
import Declutter.Proofs.Engine.Latch
import Mathlib.Data.List.Nodup

namespace Declutter

namespace Engine

variable {x : Engine}

/-- The places of the rules that passes complete, in the order in which they do. -/
def latchOrder (x : Engine) : List Surroundings → List Nat
  | [] => []
  | w :: ws =>
    Rule.newlyCompleted x.rules (x.passIn w).engine.rules ++ (x.passIn w).engine.latchOrder ws

theorem mem_newlyCompleted_passIn {w : Surroundings} {i : Nat} :
    i ∈ Rule.newlyCompleted x.rules (x.passIn w).engine.rules ↔
      x.isLatched i = false ∧ (x.passIn w).engine.isLatched i = true := by
  have hb : (x.passIn w).engine.isLatched i = true → i < x.rules.length := by
    intro hl
    obtain ⟨r, hr, _⟩ := isLatched_iff.mp hl
    have := (List.getElem?_eq_some_iff.mp hr).1
    rwa [passIn_rules_length] at this
  simp only [Rule.newlyCompleted, List.mem_filter, List.mem_range, Bool.and_eq_true,
    Bool.not_eq_eq_eq_not, Bool.not_true]
  exact ⟨fun h => h.2, fun h => ⟨hb h.2, h⟩⟩

/-- The rules in the order of completion are those that were pending and are completed. -/
theorem mem_latchOrder {ws : List Surroundings} {i : Nat} :
    i ∈ x.latchOrder ws ↔ x.isLatched i = false ∧ (x.after ws).isLatched i = true := by
  induction ws generalizing x with
  | nil => cases h : x.isLatched i <;> simp [latchOrder, after, h]
  | cons w ws ih =>
    rw [latchOrder, List.mem_append, mem_newlyCompleted_passIn, ih, after]
    cases hx : x.isLatched i with
    | true => simp [(passIn_of_isLatched hx w).2]
    | false =>
      cases hy : (x.passIn w).engine.isLatched i with
      | true => simp [isLatched_after hy ws]
      | false => simp

theorem latchOrder_nodup (x : Engine) (ws : List Surroundings) : (x.latchOrder ws).Nodup := by
  induction ws generalizing x with
  | nil => exact List.nodup_nil
  | cons w ws ih =>
    rw [latchOrder, List.nodup_append']
    refine ⟨List.nodup_range.filter _, ih _, ?_⟩
    intro i hi hj
    have latched := (mem_newlyCompleted_passIn.mp hi).2
    have pending := (mem_latchOrder.mp hj).1
    simp [latched] at pending

theorem categoriesAt_passIn (x : Engine) (w : Surroundings) (places : List Nat) :
    Rule.categoriesAt (x.passIn w).engine.rules places = Rule.categoriesAt x.rules places :=
  Rule.categoriesAt_congr (x.passIn_map_fresh w) places

theorem categoriesAt_latchOrder_cons (x : Engine) (w : Surroundings) (ws : List Surroundings) :
    Rule.categoriesAt x.rules (x.latchOrder (w :: ws)) =
      Rule.completions x.rules (x.passIn w).engine.rules ++
        Rule.categoriesAt (x.passIn w).engine.rules ((x.passIn w).engine.latchOrder ws) := by
  rw [latchOrder, Rule.categoriesAt_append, categoriesAt_passIn]
  rfl

theorem after_counts (x : Engine) (ws : List Surroundings) :
    (x.after ws).counts = x.counts.countAll (Rule.categoriesAt x.rules (x.latchOrder ws)) := by
  induction ws generalizing x with
  | nil => rfl
  | cons w ws ih =>
    rw [categoriesAt_latchOrder_cons, Tally.countAll_append, ← (x.passIn_course w).counts_eq]
    exact ih _

theorem filter_reports_run (x : Engine) (ws : List Surroundings) :
    ((x.run ws).flatMap Pass.reports).filter Report.isCompletion =
      x.counts.announce (Rule.categoriesAt x.rules (x.latchOrder ws)) := by
  induction ws generalizing x with
  | nil => rfl
  | cons w ws ih =>
    rw [categoriesAt_latchOrder_cons, Tally.announce_append, ← (x.passIn_course w).counts_eq,
      ← (x.passIn_course w).filter_reports, ← ih, run, List.flatMap_cons, List.filter_append]
    rfl

theorem count_latchOrder (x : Engine) (ws : List Surroundings) (category : Text) :
    (Rule.categoriesAt x.rules (x.latchOrder ws)).count category +
      x.rules.countP (Rule.countsFor category) =
        (x.after ws).rules.countP (Rule.countsFor category) := by
  induction ws generalizing x with
  | nil => simp [latchOrder, Rule.categoriesAt, after]
  | cons w ws ih =>
    have here := (x.passIn_course w).count_completions category
    have later := ih (x.passIn w).engine
    rw [categoriesAt_latchOrder_cons, List.count_append, after]
    omega

theorem map_fresh_of_pending {rules : List Rule} (pending : ∀ r ∈ rules, r.completed = false) :
    rules.map Rule.fresh = rules := by
  refine (List.map_congr_left fun r hr => ?_).trans (List.map_id rules)
  have hc := pending r hr
  cases r
  cases hc
  rfl

theorem isLatched_ofRules {rules : List Rule} (pending : ∀ r ∈ rules, r.completed = false)
    (i : Nat) : (ofRules rules).isLatched i = false := by
  refine Bool.eq_false_iff.mpr fun hl => ?_
  obtain ⟨r, hr, hc⟩ := isLatched_iff.mp hl
  simp [pending r (List.mem_of_getElem? hr)] at hc

theorem count_latchOrder_of_pending {rules : List Rule}
    (pending : ∀ r ∈ rules, r.completed = false) (ws : List Surroundings) (category : Text) :
    (Rule.categoriesAt rules ((ofRules rules).latchOrder ws)).count category =
      ((ofRules rules).after ws).rules.countP (Rule.countsFor category) := by
  have none : rules.countP (Rule.countsFor category) = 0 := by
    refine List.countP_eq_zero.mpr fun r hr => ?_
    simp [Rule.countsFor, pending r hr]
  have hc := count_latchOrder (ofRules rules) ws category
  rwa [show (ofRules rules).rules = rules from rfl, none, Nat.add_zero] at hc

theorem lt_length_of_mem_latchOrder {ws : List Surroundings} {i : Nat}
    (hi : i ∈ x.latchOrder ws) : i < x.rules.length := by
  obtain ⟨r, hr, _⟩ := isLatched_iff.mp (mem_latchOrder.mp hi).2
  have hl := (List.getElem?_eq_some_iff.mp hr).1
  have he := congrArg List.length (x.after_map_fresh ws)
  rw [List.length_map, List.length_map] at he
  omega

/-- The completions that a run tells its reporter of. -/
def told (x : Engine) (ws : List Surroundings) : List Report :=
  ((x.run ws).flatMap Pass.reports).filter Report.isCompletion

/-- What an engine knows of the rules that were given to it pending, and what has been told of
them: a tally with the number of completed rules of each category, held at the largest number, and
the completed rules in the order of completion, with a total that goes up by one each time. -/
structure Agreement (rules : List Rule) (x : Engine) (order : List Nat) (told : List Report) :
    Prop where
  rules_fresh : x.rules.map Rule.fresh = rules
  get_counts : ∀ category, x.counts.get category =
    min (x.rules.countP (Rule.countsFor category)) Text.maxWord32
  isSome_counts : ∀ category, (x.counts.counts.get? category).isSome = true ↔
    ∃ r ∈ x.rules, r.completed = true ∧ r.category = category
  order_nodup : order.Nodup
  mem_order : ∀ i, i ∈ order ↔ x.isLatched i = true
  told_getElem? : ∀ (k : Nat) (t : Report), told[k]? = some t ↔
    ∃ i r, order[k]? = some i ∧ rules[i]? = some r ∧
      t = .completed r.category (min (k + 1) Text.maxWord32)

/-- Rules, tally and reports agree behind any run from pending rules, and a completed rule stays
completed in all further passes. -/
theorem run_agreement {rules : List Rule} (pending : ∀ r ∈ rules, r.completed = false)
    (ws : List Surroundings) :
    Agreement rules ((ofRules rules).after ws) ((ofRules rules).latchOrder ws)
      ((ofRules rules).told ws) ∧
    ∀ us i, ((ofRules rules).after ws).isLatched i = true →
      ((ofRules rules).after (ws ++ us)).isLatched i = true := by
  have fresh : ((ofRules rules).after ws).rules.map Rule.fresh = rules :=
    ((ofRules rules).after_map_fresh ws).trans (map_fresh_of_pending pending)
  have order : ∀ i, i ∈ (ofRules rules).latchOrder ws ↔
      ((ofRules rules).after ws).isLatched i = true := by
    intro i
    rw [mem_latchOrder]
    simp [isLatched_ofRules pending i]
  have bound : ∀ i ∈ (ofRules rules).latchOrder ws, i < rules.length :=
    fun i hi => lt_length_of_mem_latchOrder hi
  refine ⟨⟨fresh, ?_, ?_, latchOrder_nodup _ ws, order, ?_⟩, ?_⟩
  · intro category
    rw [after_counts, Tally.get_countAll]
    rw [show (ofRules rules).rules = rules from rfl, count_latchOrder_of_pending pending]
    exact congrArg (min · Text.maxWord32) (Nat.zero_add _)
  · intro category
    rw [after_counts, Tally.isSome_get?_countAll]
    rw [show (ofRules rules).rules = rules from rfl, ← List.count_pos_iff,
      count_latchOrder_of_pending pending, List.countP_pos_iff]
    simp [ofRules, Tally.empty, Rule.countsFor]
  · intro k t
    rw [told, filter_reports_run, Tally.announce_getElem?]
    rw [show (ofRules rules).rules = rules from rfl, Rule.categoriesAt_getElem? bound,
      show (ofRules rules).counts.total = 0 from rfl, Nat.zero_add]
    constructor
    · intro h
      obtain ⟨c, hc, rfl⟩ := Option.map_eq_some_iff.mp h
      obtain ⟨i, hi, hm⟩ := Option.bind_eq_some_iff.mp hc
      obtain ⟨r, hr, rfl⟩ := Option.map_eq_some_iff.mp hm
      exact ⟨i, r, hi, hr, rfl⟩
    · rintro ⟨i, r, hi, hr, rfl⟩
      simp [hi, hr]
  · intro us i hl
    rw [after_append]
    exact isLatched_after hl us

/-- A rule counts also where the pass that completes it is aborted, and it counts once. -/
theorem run_agreement_dismissal :
    (∀ r ∈ [dismissal], r.completed = false) ∧
      (ofRules [dismissal]).latchOrder [mutePage, mutePage] = [0] ∧
      ((ofRules [dismissal]).after [mutePage, mutePage]).counts.get dismissal.category = 1 := by
  have pending : ∀ r ∈ [dismissal], r.completed = false := by decide
  refine ⟨pending, by decide, ?_⟩
  rw [(run_agreement pending [mutePage, mutePage]).1.get_counts]
  decide

end Engine

end Declutter
