import Declutter.Proofs.Engine.Fault
import Declutter.Proofs.Engine.Latch

namespace Declutter

namespace Rule

def durations (r : Rule) : List Nat :=
  r.conditions.filterMap Condition.duration?

end Rule

namespace Action

variable {σ : Type} {h : Host σ}

theorem callPage_slept (a : Action) (s : σ) :
    (a.callPage h s).effects.filterMap Effect.slept? = [] := by
  unfold callPage
  split <;> simp [Effect.slept?]

theorem perform_slept (a : Action) (target : h.Handle) (s : σ) :
    (a.perform h target s).effects.filterMap Effect.slept? = [] := by
  unfold perform
  split
  · exact a.callPage_slept s
  · cases a.edit? <;> simp [Effect.slept?]

theorem run_slept (a : Action) (s : σ) :
    (a.run h s).effects.filterMap Effect.slept? = [] := by
  unfold run
  split
  · split
    · simp
    · simpa [Effect.slept?] using a.callPage_slept s
  · rcases h.find s a.selector with ⟨t, e | _ | target⟩
    · simp [Effect.slept?]
    · simp [Effect.slept?]
    · simpa [Effect.slept?] using a.perform_slept target t

/-- No action waits. -/
theorem runAll_slept (as : List Action) (s : σ) :
    (runAll h as s).effects.filterMap Effect.slept? = [] := by
  induction as generalizing s with
  | nil => rfl
  | cons a rest ih =>
    have here := a.run_slept (h := h) s
    rcases hr : a.run h s with ⟨t, effects, e | worked⟩
    · simpa [runAll, hr] using here
    · rw [hr] at here
      simp only [runAll, hr, List.filterMap_append]
      rw [show effects.filterMap Effect.slept? = [] from here, ih t]
      rfl

end Action

namespace Visit

theorem run_slept {r : Rule} (checked : r.Checked) {σ : Type} (h : Host σ) (s : σ) :
    (run h r s).2.effects.filterMap Effect.slept? <+: r.durations := by
  have hp := Condition.checkAll_slept checked.conditions h s
  unfold run
  rcases hc : Condition.checkAll h r.conditions s with ⟨t, effects, e | _ | _⟩
  · simpa [hc, Rule.durations] using hp
  · simpa [hc, Rule.durations] using hp
  · rw [hc] at hp
    simpa [Rule.durations, Action.runAll_slept] using hp

theorem run_error {β : Type} {bridge : Bridge β} {timer : β → Nat → β} {s : Page × β} {r : Rule}
    (checked : r.Checked) {e : EvaluationError}
    (he : (run (Host.ofPageAndTimer bridge timer) r s).2.error = some e) :
    e.FromScripts (run (Host.ofPageAndTimer bridge timer) r s).2.effects := by
  have hg : ∀ c reason,
      (Condition.checkAll (Host.ofPageAndTimer bridge timer) r.conditions s).value =
        .error (c, reason) →
      (EvaluationError.predicate r.category c.toText reason).FromScripts
        (Condition.checkAll (Host.ofPageAndTimer bridge timer) r.conditions s).effects :=
    fun c reason hv => Condition.checkAll_error checked.conditions hv r.category
  unfold run at he ⊢
  rcases hc : Condition.checkAll (Host.ofPageAndTimer bridge timer) r.conditions s with
    ⟨t, effects, ⟨c, reason⟩ | _ | _⟩
  · simp only [hc, Option.some.injEq] at he hg ⊢
    exact he ▸ hg c reason rfl
  · simp [hc] at he
  · simp only [hc] at he ⊢
    obtain ⟨⟨a, reason⟩, hv, rfl⟩ := Option.map_eq_some_iff.mp he
    exact (Action.runAll_error checked.actions hv r.category).prepend effects

end Visit

namespace Pass

end Pass

namespace Engine

end Engine

end Declutter
