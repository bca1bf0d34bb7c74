import Declutter.Engine.Visit

namespace Declutter

variable {σ : Type} {h : Host σ} {s t : σ} {effects : List Effect}

namespace Condition

/-- Conditions that hold one after the other, with what is done to find out. -/
inductive Hold (h : Host σ) : List Condition → σ → List Effect → σ → Prop
  | nil {s : σ} : Hold h [] s [] s
  | cons {c : Condition} {rest : List Condition} {s t u : σ} {asked later : List Effect}
      (holds : c.check h s = ⟨t, asked, .ok true⟩) (onward : Hold h rest t later u) :
      Hold h (c :: rest) s (asked ++ later) u

/-- Conditions that hold up to `c`, whose check gives `verdict`; none behind it is checked. -/
inductive Stop (h : Host σ) (c : Condition) (verdict : Except Text Bool) :
    List Condition → σ → List Effect → σ → Prop
  | here {rest : List Condition} {s t : σ} {asked : List Effect}
      (check : c.check h s = ⟨t, asked, verdict⟩) : Stop h c verdict (c :: rest) s asked t
  | later {d : Condition} {rest : List Condition} {s t u : σ} {asked later : List Effect}
      (holds : d.check h s = ⟨t, asked, .ok true⟩) (onward : Stop h c verdict rest t later u) :
      Stop h c verdict (d :: rest) s (asked ++ later) u

variable {cs : List Condition}

theorem hold_of_checkAll (hr : checkAll h cs s = ⟨t, effects, .ok true⟩) :
    Hold h cs s effects t := by
  induction cs generalizing s effects with
  | nil =>
    cases hr
    exact .nil
  | cons c rest ih =>
    rcases hc : c.check h s with ⟨u, asked, reason | _ | _⟩
    · simp [checkAll, hc] at hr
    · simp [checkAll, hc] at hr
    · simp only [checkAll, hc, Ran.mk.injEq] at hr
      obtain ⟨rfl, rfl, hv⟩ := hr
      exact .cons hc (ih (by rw [← hv]))

/-- Where not all conditions hold, the result is the verdict on the first that does not. -/
theorem stop_of_checkAll {value : Except (Condition × Text) Bool}
    (hr : checkAll h cs s = ⟨t, effects, value⟩) (hv : value ≠ .ok true) :
    ∃ c verdict, Stop h c verdict cs s effects t ∧ value = verdict.mapError (Prod.mk c) := by
  induction cs generalizing s effects with
  | nil =>
    cases hr
    exact absurd rfl hv
  | cons c rest ih =>
    rcases hc : c.check h s with ⟨u, asked, reason | _ | _⟩
    · simp only [checkAll, hc, Ran.mk.injEq] at hr
      obtain ⟨rfl, rfl, rfl⟩ := hr
      exact ⟨c, _, .here hc, rfl⟩
    · simp only [checkAll, hc, Ran.mk.injEq] at hr
      obtain ⟨rfl, rfl, rfl⟩ := hr
      exact ⟨c, _, .here hc, rfl⟩
    · simp only [checkAll, hc, Ran.mk.injEq] at hr
      obtain ⟨rfl, rfl, he⟩ := hr
      obtain ⟨d, verdict, stop, hd⟩ := ih (by rw [← he])
      exact ⟨d, verdict, .later hc stop, hd⟩

end Condition

namespace Action

/-- Actions that are run one after the other without failing; `worked` tells for each whether it
has had an effect. -/
inductive Performed (h : Host σ) : List Action → σ → List Bool → List Effect → σ → Prop
  | nil {s : σ} : Performed h [] s [] [] s
  | cons {a : Action} {rest : List Action} {s t u : σ} {works : Bool} {worked : List Bool}
      {done later : List Effect} (ran : a.run h s = ⟨t, done, .ok works⟩)
      (onward : Performed h rest t worked later u) :
      Performed h (a :: rest) s (works :: worked) (done ++ later) u

/-- Actions of which `a` is the first that fails; `worked` tells for each before it whether it has
had an effect, and none behind it is run. -/
inductive Fail (h : Host σ) (a : Action) (reason : Text) :
    List Action → σ → List Bool → List Effect → σ → Prop
  | here {rest : List Action} {s t : σ} {done : List Effect}
      (ran : a.run h s = ⟨t, done, .error reason⟩) : Fail h a reason (a :: rest) s [] done t
  | later {b : Action} {rest : List Action} {s t u : σ} {works : Bool} {worked : List Bool}
      {done later : List Effect} (ran : b.run h s = ⟨t, done, .ok works⟩)
      (onward : Fail h a reason rest t worked later u) :
      Fail h a reason (b :: rest) s (works :: worked) (done ++ later) u

variable {as : List Action} {worked : List Bool}

theorem performed_of_runAll (hr : runAll h as s = ⟨t, effects, worked, none⟩) :
    Performed h as s worked effects t := by
  induction as generalizing s effects worked with
  | nil =>
    cases hr
    exact .nil
  | cons a rest ih =>
    rcases ha : a.run h s with ⟨u, done, reason | works⟩
    · simp [runAll, ha] at hr
    · simp only [runAll, ha, Ran.mk.injEq, Prod.mk.injEq] at hr
      obtain ⟨rfl, rfl, rfl, hn⟩ := hr
      exact .cons ha (ih (by rw [← hn]))

theorem fail_of_runAll {a : Action} {reason : Text}
    (hr : runAll h as s = ⟨t, effects, worked, some (a, reason)⟩) :
    Fail h a reason as s worked effects t := by
  induction as generalizing s effects worked with
  | nil => cases hr
  | cons b rest ih =>
    rcases hb : b.run h s with ⟨u, done, why | works⟩
    · simp only [runAll, hb, Ran.mk.injEq, Prod.mk.injEq, Option.some.injEq] at hr
      obtain ⟨rfl, rfl, rfl, rfl, rfl⟩ := hr
      exact .here hb
    · simp only [runAll, hb, Ran.mk.injEq, Prod.mk.injEq] at hr
      obtain ⟨rfl, rfl, rfl, hs⟩ := hr
      exact .later hb (ih (by rw [← hs]))

end Action

namespace Visit

variable {r : Rule} {v : Visit}

/-- A visit that does not fail: a condition is false, or all hold and all actions are run. -/
inductive Through (h : Host σ) (r : Rule) (s : σ) : List Bool → List Effect → σ → Prop
  | refused {c : Condition} {asked : List Effect} {t : σ}
      (stop : Condition.Stop h c (.ok false) r.conditions s asked t) : Through h r s [] asked t
  | acted {asked done : List Effect} {worked : List Bool} {t u : σ}
      (hold : Condition.Hold h r.conditions s asked t)
      (performed : Action.Performed h r.actions t worked done u) :
      Through h r s worked (asked ++ done) u

/-- A visit that fails: at a condition, before any action is run, or at an action. -/
inductive Fail (h : Host σ) (r : Rule) (s : σ) :
    List Bool → List Effect → σ → EvaluationError → Prop
  | guard {c : Condition} {reason : Text} {asked : List Effect} {t : σ}
      (stop : Condition.Stop h c (.error reason) r.conditions s asked t) :
      Fail h r s [] asked t (.predicate r.category c.toText reason)
  | action {a : Action} {reason : Text} {asked done : List Effect} {worked : List Bool} {t u : σ}
      (hold : Condition.Hold h r.conditions s asked t)
      (fail : Action.Fail h a reason r.actions t worked done u) :
      Fail h r s worked (asked ++ done) u (.action r.category a.toText reason)

theorem through_of_run (hr : run h r s = (t, v)) (well : v.error = none) :
    Through h r s v.worked v.effects t := by
  unfold run at hr
  rcases hc : Condition.checkAll h r.conditions s with ⟨u, asked, ⟨c, reason⟩ | _ | _⟩
  · simp only [hc, Prod.mk.injEq] at hr
    obtain ⟨-, rfl⟩ := hr
    cases well
  · simp only [hc, Prod.mk.injEq] at hr
    obtain ⟨rfl, rfl⟩ := hr
    obtain ⟨c, reason | b, stop, hv⟩ := Condition.stop_of_checkAll hc (by simp)
    · cases hv
    · cases hv
      exact .refused stop
  · simp only [hc, Prod.mk.injEq] at hr
    obtain ⟨rfl, rfl⟩ := hr
    have none := Option.map_eq_none_iff.mp well
    exact .acted (Condition.hold_of_checkAll hc) (Action.performed_of_runAll (by rw [← none]))

theorem fail_of_run {e : EvaluationError} (hr : run h r s = (t, v)) (failed : v.error = some e) :
    Fail h r s v.worked v.effects t e := by
  unfold run at hr
  rcases hc : Condition.checkAll h r.conditions s with ⟨u, asked, ⟨c, reason⟩ | _ | _⟩
  · simp only [hc, Prod.mk.injEq] at hr
    obtain ⟨rfl, rfl⟩ := hr
    cases failed
    obtain ⟨d, why | b, stop, hv⟩ := Condition.stop_of_checkAll hc (by simp)
    · cases hv
      exact .guard stop
    · cases hv
  · simp only [hc, Prod.mk.injEq] at hr
    obtain ⟨-, rfl⟩ := hr
    cases failed
  · simp only [hc, Prod.mk.injEq] at hr
    obtain ⟨rfl, rfl⟩ := hr
    obtain ⟨⟨a, reason⟩, some, rfl⟩ := Option.map_eq_some_iff.mp failed
    exact .action (Condition.hold_of_checkAll hc) (Action.fail_of_runAll (by rw [← some]))

/-- A rule that fails is completed exactly if it fails at an action and one before that has had an
effect. -/
theorem Fail.completes_iff {e : EvaluationError} (fail : Fail h r s v.worked effects t e) :
    v.completes = true ↔ (∃ deed reason, e = .action r.category deed reason) ∧ true ∈ v.worked := by
  have contains : v.completes = true ↔ true ∈ v.worked := List.contains_iff_mem
  rw [contains]
  generalize v.worked = worked at fail
  cases fail with
  | guard => simp
  | @action a reason => exact ⟨fun hm => ⟨⟨_, reason, rfl⟩, hm⟩, fun hm => hm.2⟩

end Visit

end Declutter
