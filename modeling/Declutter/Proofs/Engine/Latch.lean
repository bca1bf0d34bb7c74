import Declutter.Proofs.Engine.Run
import Mathlib.Tactic.ByContra

namespace Declutter

namespace Pass

variable {σ : Type} {h : Host σ} {s : σ} {counts : Tally} {rules : List Rule} {p : Pass σ}

/-- What a pass makes of one rule: nothing, or what its visit leaves of it. -/
inductive Fate (h : Host σ) (r : Rule) : Option Visit → Rule → Prop
  | unseen : Fate h r none r
  | seen (s : σ) (pending : r.completed = false) :
      Fate h r (some (Visit.run h r s).2) ((Visit.run h r s).2.latch r)

theorem Course.visits_length (c : Course h s counts rules p) :
    p.visits.length = rules.length := by
  induction c with
  | done => rfl
  | skip _ _ ih => simp [ih]
  | abort => simp
  | visit _ _ _ _ ih => simp [ih]

theorem Course.fate (c : Course h s counts rules p) {i : Nat} {r : Rule}
    (hr : rules[i]? = some r) :
    ∃ after, p.engine.rules[i]? = some after ∧ Fate h r (p.visit? i) after := by
  induction c generalizing i with
  | done => simp at hr
  | skip completed onward ih =>
    cases i with
    | zero => exact ⟨r, hr, .unseen⟩
    | succ i => exact ih hr
  | @abort s t _ _ rest v _ pending visit failed =>
    cases i with
    | zero =>
      cases Option.some.inj hr
      have hv : (Visit.run h r s).2 = v := by rw [visit]
      exact ⟨v.latch r, rfl, hv ▸ .seen s pending⟩
    | succ i =>
      have hi : rest[i]? = some r := hr
      have hn : (rest.map fun _ => (none : Option Visit))[i]?.join = none := by
        rw [List.getElem?_map, hi]
        rfl
      exact ⟨r, hi, Eq.subst (motive := fun o => Fate h r o r) hn.symm .unseen⟩
  | @visit s _ _ _ _ v _ pending visit well onward ih =>
    cases i with
    | zero =>
      cases Option.some.inj hr
      have hv : (Visit.run h r s).2 = v := by rw [visit]
      exact ⟨v.latch r, rfl, hv ▸ .seen s pending⟩
    | succ i => exact ih hr

/-- The rules behind the one that fails have no effects. -/
theorem effects_abort (t : σ) (x : Engine) (v : Visit) (rest : List Rule)
    (reports : List Report) (error : Option EvaluationError) :
    (⟨t, x, some v :: rest.map fun _ => none, reports, error⟩ : Pass σ).effects = v.effects := by
  have hn : (rest.map fun _ => (none : Option Visit)).flatMap
      (fun v => (v.map Visit.effects).getD []) = [] := by
    simp [List.flatMap_eq_nil_iff]
  simp only [effects, List.flatMap_cons, hn, List.append_nil]
  rfl

/-- Two passes that do the same, be it among different rules. -/
structure SameWork (p q : Pass σ) : Prop where
  state : p.state = q.state
  effects : p.effects = q.effects
  counts : p.engine.counts = q.engine.counts
  reports : p.reports = q.reports
  error : p.error = q.error

/-- A completed rule makes no difference to what a pass does. -/
theorem Course.exists_sameWork_eraseIdx (c : Course h s counts rules p) {i : Nat} {r : Rule}
    (hr : rules[i]? = some r) (hc : r.completed = true) :
    ∃ q, Course h s counts (rules.eraseIdx i) q ∧ SameWork p q := by
  induction c generalizing i with
  | done => simp at hr
  | skip completed onward ih =>
    cases i with
    | zero => exact ⟨_, onward, by constructor <;> simp [effects]⟩
    | succ i =>
      obtain ⟨q, hq, same⟩ := ih hr
      exact ⟨_, .skip completed hq, same.state, by simpa [effects] using same.effects,
        same.counts, same.reports, same.error⟩
  | abort pending visit failed =>
    cases i with
    | zero =>
      cases Option.some.inj hr
      exact absurd hc (by simp [pending])
    | succ i =>
      exact ⟨_, .abort pending visit failed, rfl, by rw [effects_abort, effects_abort], rfl, rfl,
        rfl⟩
  | visit pending visit well onward ih =>
    cases i with
    | zero =>
      cases Option.some.inj hr
      exact absurd hc (by simp [pending])
    | succ i =>
      obtain ⟨q, hq, same⟩ := ih hr
      exact ⟨_, .visit pending visit well hq, same.state,
        by simpa [effects] using same.effects, same.counts, by simp [same.reports], same.error⟩

theorem worked_eq_true_iff {i j : Nat} :
    p.worked i j = true ↔ ∃ v, p.visit? i = some v ∧ v.worked[j]? = some true := by
  simp [worked, Option.any_eq_true]

theorem effectsOf_eq_nil {i : Nat} (hv : p.visit? i = none) : p.effectsOf i = [] := by
  simp [effectsOf, hv]

end Pass

namespace Engine

def isLatched (x : Engine) (i : Nat) : Bool :=
  x.rules[i]?.any Rule.completed

def without (x : Engine) (i : Nat) : Engine :=
  { x with rules := x.rules.eraseIdx i }

variable {x : Engine} {ws : List Surroundings} {i j : Nat}

theorem isLatched_iff : x.isLatched i = true ↔ ∃ r, x.rules[i]? = some r ∧ r.completed = true := by
  simp [isLatched, Option.any_eq_true]

/-- A completed rule is not looked at, and it stays completed. -/
theorem passIn_of_isLatched (hl : x.isLatched i = true) (w : Surroundings) :
    (x.passIn w).visit? i = none ∧ (x.passIn w).engine.isLatched i = true := by
  obtain ⟨r, hr, hc⟩ := isLatched_iff.mp hl
  obtain ⟨after, ha, fate⟩ := (x.passIn_course w).fate hr
  generalize (x.passIn w).visit? i = o at fate ⊢
  cases fate with
  | unseen => exact ⟨rfl, isLatched_iff.mpr ⟨r, ha, hc⟩⟩
  | seen s pending => exact absurd hc (by simp [pending])

/-- A visit is one of a rule of the engine that was pending. -/
theorem exists_fate_of_visit? {w : Surroundings} {v : Visit} (hv : (x.passIn w).visit? i = some v) :
    ∃ r after, x.rules[i]? = some r ∧ (x.passIn w).engine.rules[i]? = some after ∧
      Pass.Fate w.host r (some v) after := by
  have hb : i < (x.passIn w).visits.length := by
    by_contra hh
    have hn : (x.passIn w).visits[i]? = none := List.getElem?_eq_none (by omega)
    simp [Pass.visit?, hn] at hv
  rw [(x.passIn_course w).visits_length] at hb
  obtain ⟨after, ha, fate⟩ := (x.passIn_course w).fate (List.getElem?_eq_getElem hb)
  exact ⟨_, after, List.getElem?_eq_getElem hb, ha, hv ▸ fate⟩

/-- A rule whose action has had an effect is completed behind the pass, aborted or not. -/
theorem isLatched_of_worked {w : Surroundings} (hw : (x.passIn w).worked i j = true) :
    (x.passIn w).engine.isLatched i = true := by
  obtain ⟨v, hv, hj⟩ := Pass.worked_eq_true_iff.mp hw
  obtain ⟨r, after, _, ha, fate⟩ := exists_fate_of_visit? hv
  cases fate with
  | seen s pending => exact isLatched_iff.mpr ⟨_, ha, Visit.completes_of_worked hj⟩

theorem isLatched_after (hl : x.isLatched i = true) (ws : List Surroundings) :
    (x.after ws).isLatched i = true := by
  induction ws generalizing x with
  | nil => exact hl
  | cons w ws ih => exact ih (passIn_of_isLatched hl w).2

theorem countP_worked_of_isLatched (hl : x.isLatched i = true) :
    (x.run ws).countP (fun p => p.worked i j) = 0 := by
  induction ws generalizing x with
  | nil => rfl
  | cons w ws ih =>
    obtain ⟨hv, hl⟩ := passIn_of_isLatched hl w
    have hw : (x.passIn w).record.worked i j = false := by
      simp [Pass.worked, show (x.passIn w).record.visit? i = none from hv]
    simp [run, hw, ih hl]

/-- An action has its effect in at most one pass of a run. -/
theorem countP_worked_le_one (x : Engine) (ws : List Surroundings) (i j : Nat) :
    (x.run ws).countP (fun p => p.worked i j) ≤ 1 := by
  induction ws generalizing x with
  | nil => simp [run]
  | cons w ws ih =>
    by_cases hw : (x.passIn w).record.worked i j = true
    · have hl : (x.passIn w).engine.isLatched i = true := isLatched_of_worked hw
      simp [run, hw, countP_worked_of_isLatched hl]
    · simpa [run, List.countP_cons, hw] using ih (x.passIn w).engine

/-- Behind a pass in which an action of a rule has had an effect, the rule stays completed. -/
theorem isLatched_after_take {k l : Nat} {p : Pass Unit} (hp : (x.run ws)[k]? = some p)
    (hw : p.worked i j = true) (hkl : k < l) : (x.after (ws.take l)).isLatched i = true := by
  rw [run_getElem?] at hp
  obtain ⟨w, hk, rfl⟩ := Option.map_eq_some_iff.mp hp
  have hl : (x.after (ws.take (k + 1))).isLatched i = true := by
    rw [after_take_succ hk]
    exact isLatched_of_worked hw
  have hs : ws.take l = ws.take (k + 1) ++ (ws.drop (k + 1)).take (l - (k + 1)) := by
    rw [← List.take_add, show k + 1 + (l - (k + 1)) = l by omega]
  rw [hs, after_append]
  exact isLatched_after hl _

theorem visit?_eq_none_of_worked {k l : Nat} {p q : Pass Unit} (hp : (x.run ws)[k]? = some p)
    (hw : p.worked i j = true) (hq : (x.run ws)[l]? = some q) (hkl : k < l) :
    q.visit? i = none := by
  have hl := isLatched_after_take hp hw hkl
  rw [run_getElem?] at hq
  obtain ⟨w, _, rfl⟩ := Option.map_eq_some_iff.mp hq
  exact (passIn_of_isLatched hl w).1

theorem passIn_sameWork_without (hl : x.isLatched i = true) (w : Surroundings) :
    (x.passIn w).SameWork ((x.without i).passIn w) := by
  obtain ⟨r, hr, hc⟩ := isLatched_iff.mp hl
  obtain ⟨q, hq, same⟩ := (x.passIn_course w).exists_sameWork_eraseIdx hr hc
  rwa [show q = (x.without i).passIn w from hq.eq_visitAll] at same

/-- Over any run, each action of a rule has its effect at most once, and all in a single pass,
whether that is aborted or not. In later passes the rule does nothing, and they go as if it were
not there. -/
theorem run_rule_works_in_one_pass (rules : List Rule) (ws : List Surroundings) (i : Nat) :
    (∀ j, ((ofRules rules).run ws).countP (fun p => p.worked i j) ≤ 1) ∧
    ∀ k p j, ((ofRules rules).run ws)[k]? = some p → p.worked i j = true →
      (∀ l q m, ((ofRules rules).run ws)[l]? = some q → q.worked i m = true → l = k) ∧
      (∀ l q, ((ofRules rules).run ws)[l]? = some q → k < l → q.effectsOf i = []) ∧
      ∀ l w, k < l → (((ofRules rules).after (ws.take l)).passIn w).SameWork
        ((((ofRules rules).after (ws.take l)).without i).passIn w) := by
  refine ⟨countP_worked_le_one _ ws i, ?_⟩
  intro k p j hp hw
  refine ⟨?_, ?_, ?_⟩
  · intro l q m hq hm
    obtain ⟨v, hv, _⟩ := Pass.worked_eq_true_iff.mp hw
    obtain ⟨u, hu, _⟩ := Pass.worked_eq_true_iff.mp hm
    rcases Nat.lt_trichotomy k l with hkl | hkl | hkl
    · simp [visit?_eq_none_of_worked hp hw hq hkl] at hu
    · exact hkl.symm
    · simp [visit?_eq_none_of_worked hq hm hp hkl] at hv
  · intro l q hq hkl
    exact Pass.effectsOf_eq_nil (visit?_eq_none_of_worked hp hw hq hkl)
  · intro l w hkl
    exact passIn_sameWork_without (isLatched_after_take hp hw hkl) w

/-- A page without scripts: selectors find something and edits go well, but calls fail. -/
def mutePage : Surroundings where
  State := Unit
  host := {
    Handle := Unit
    find := fun s _ => (s, .ok (some ()))
    apply := fun s _ _ => (s, .ok ())
    call := fun s _ _ => (s, .error .disconnected)
    sleep := fun s _ => s }
  state := ()

/-- A rule that edits the page and then calls one of its functions. -/
def dismissal : Rule :=
  ⟨"message".toList, [], [⟨".modal".toList, "remove".toList, [], .remove⟩,
    ⟨"call".toList, "call".toList, ["app.dismiss".toList], .call⟩], false⟩

/-- The failing call aborts the first pass, and yet the second one does not edit again. -/
theorem run_dismissal_edits_once :
    ∃ p q, (ofRules [dismissal]).run [mutePage, mutePage] = [p, q] ∧ p.error ≠ none ∧
      p.worked 0 0 = true ∧ q.effectsOf 0 = [] := by
  refine ⟨_, _, rfl, by decide, by decide, ?_⟩
  exact ((run_rule_works_in_one_pass [dismissal] [mutePage, mutePage] 0).2 0 _ 0 rfl
    (by decide)).2.1 1 _ rfl (by omega)

end Engine

end Declutter
