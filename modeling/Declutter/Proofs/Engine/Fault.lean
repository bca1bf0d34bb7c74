import Declutter.Proofs.Engine.Run
import Declutter.Proofs.Page.Spots
import Declutter.Proofs.Rule.Checked
import Declutter.Proofs.Text.Quoted

namespace Declutter

/-- A page with a bridge to its scripts, and a timer that may let the scripts go on. -/
def Host.ofPageAndTimer {β : Type} (bridge : Bridge β) (timer : β → (ms : Nat) → β) :
    Host (Page × β) :=
  { Host.ofPage bridge with sleep := fun s ms => (s.1, timer s.2 ms) }

/-- A page with its scripts, in which a pass takes place. -/
structure PageSurroundings where
  Scripts : Type
  page : Page
  scripts : Scripts
  bridge : Bridge Scripts
  timer : Scripts → (ms : Nat) → Scripts

def PageSurroundings.toSurroundings (w : PageSurroundings) : Surroundings where
  State := Page × w.Scripts
  host := Host.ofPageAndTimer w.bridge w.timer
  state := (w.page, w.scripts)

/-- An error that the scripts of the page are to blame for: the last thing done is a call that has
failed, or a question for a definition with an answer that is neither true nor false. -/
inductive EvaluationError.FromScripts : List Effect → EvaluationError → Prop
  | unanswered (done : List Effect) (path category guard : Text) (e : BridgeError) :
      FromScripts (done ++ [.call "defined".toList [path] (.error e)])
        (.predicate category guard e.message)
  | undecided (done : List Effect) (path category guard : Text) (answer : Json)
      (odd : ∀ b, answer ≠ .bool b) :
      FromScripts (done ++ [.call "defined".toList [path] (.ok answer)])
        (.predicate category guard ("expected a boolean, got ".toList ++ answer.compact))
  | failed (done : List Effect) (args : List Text) (category deed : Text) (e : BridgeError) :
      FromScripts (done ++ [.call "call".toList args (.error e)])
        (.action category deed e.message)

theorem EvaluationError.FromScripts.prepend {effects : List Effect} {e : EvaluationError}
    (h : e.FromScripts effects) (before : List Effect) : e.FromScripts (before ++ effects) := by
  cases h with
  | unanswered done path category guard e =>
    rw [← List.append_assoc]
    exact .unanswered _ path category guard e
  | undecided done path category guard answer odd =>
    rw [← List.append_assoc]
    exact .undecided _ path category guard answer odd
  | failed done args category deed e =>
    rw [← List.append_assoc]
    exact .failed _ args category deed e

/-- How long an effect lasts, if it is a rest. -/
def Effect.slept? : Effect → Option Nat
  | .sleep ms => some ms
  | _ => none

namespace Condition

def duration? (c : Condition) : Option Nat :=
  if c.kind = .sleep then (Argument.duration c.argument).toOption else none

/-- A condition that waits does so for the time that its argument has been read as. -/
theorem check_sleep {c : Condition} (checked : c.Checked) (hk : c.kind = .sleep) :
    ∃ ms, Argument.duration c.argument = .ok ms ∧
      ∀ {σ : Type} (h : Host σ) (s : σ), c.check h s = ⟨h.sleep s ms, [.sleep ms], .ok true⟩ := by
  unfold Checked at checked
  rw [hk, PredicateKind.check] at checked
  obtain ⟨ms, hd, _⟩ := Traversal.map_eq_ok_iff.mp checked
  refine ⟨ms, hd, ?_⟩
  have hn : Text.natural? Text.maxWord64 (Text.unquote c.argument) = some ms := by
    unfold Argument.duration at hd
    split at hd
    next n hn =>
      cases hd
      exact hn
    next => simp at hd
  have hu : Argument.duration (Text.unquote c.argument) = .ok ms := by
    rw [Argument.duration, Text.unquote_of_natural? hn, hn]
  intro σ h s
  simp [check, hk, hu]

variable {β : Type} {bridge : Bridge β} {timer : β → Nat → β} {s : Page × β}

theorem check_present {c : Condition} (checked : c.Checked) (hk : c.kind = .present) :
    ∃ b, c.check (Host.ofPageAndTimer bridge timer) s =
      ⟨s, [.lookup (Text.unquote c.argument)], .ok b⟩ := by
  unfold Checked at checked
  rw [hk, PredicateKind.check] at checked
  obtain ⟨t, ht, _⟩ := Traversal.map_eq_ok_iff.mp checked
  have hr : (Selector.read? (Text.unquote c.argument)).isSome = true := by
    unfold Argument.selector at ht
    split at ht
    next hr => simp [hr]
    next => simp at ht
  obtain ⟨found, hf⟩ := Page.exists_select (p := s.1) hr
  exact ⟨found.isSome, by simp [check, hk, Host.ofPageAndTimer, Host.ofPage, hf]⟩

theorem definedness_error {result : Except BridgeError Json} {reason : Text}
    (h : definedness result = .error reason) (category guard path : Text) :
    (EvaluationError.predicate category guard reason).FromScripts
      [.call "defined".toList [path] result] := by
  cases result with
  | error e =>
    cases h
    exact .unanswered [] path category guard e
  | ok answer =>
    unfold definedness at h
    split at h
    next => simp at h
    next odd heq =>
      cases heq
      cases h
      exact .undecided [] path category guard _ odd
    next heq => cases heq

theorem checkAll_error {cs : List Condition} (checked : ∀ c ∈ cs, c.Checked) {c : Condition}
    {reason : Text}
    (hv : (checkAll (Host.ofPageAndTimer bridge timer) cs s).value = .error (c, reason))
    (category : Text) :
    (EvaluationError.predicate category c.toText reason).FromScripts
      (checkAll (Host.ofPageAndTimer bridge timer) cs s).effects := by
  induction cs generalizing s with
  | nil => simp [checkAll] at hv
  | cons d rest ih =>
    obtain ⟨hd, hr⟩ := List.forall_mem_cons.mp checked
    rcases hc : d.check (Host.ofPageAndTimer bridge timer) s with ⟨t, effects, value⟩
    cases value with
    | ok b =>
      cases b with
      | true =>
        simp only [checkAll, hc] at hv ⊢
        exact (ih hr hv).prepend effects
      | false => simp [checkAll, hc] at hv
    | error why =>
      simp only [checkAll, hc, Except.error.injEq, Prod.mk.injEq] at hv ⊢
      obtain ⟨rfl, rfl⟩ := hv
      cases hk : d.kind with
      | present =>
        have known : ∃ b, d.check (Host.ofPageAndTimer bridge timer) s =
            ⟨s, [.lookup (Text.unquote d.argument)], .ok b⟩ := check_present hd hk
        obtain ⟨b, he⟩ := known
        simp [he] at hc
      | sleep =>
        obtain ⟨ms, _, he⟩ := check_sleep hd hk
        simp [he] at hc
      | defined =>
        simp only [check, hk, Ran.mk.injEq] at hc
        obtain ⟨_, rfl, hw⟩ := hc
        exact definedness_error hw category d.toText (Text.unquote d.argument)

/-- Waiting is all that the conditions of a rule rest for, in order, up to the one that fails. -/
theorem checkAll_slept {cs : List Condition} (checked : ∀ c ∈ cs, c.Checked) {σ : Type}
    (h : Host σ) (s : σ) :
    (checkAll h cs s).effects.filterMap Effect.slept? <+: cs.filterMap duration? := by
  induction cs generalizing s with
  | nil => simp [checkAll]
  | cons d rest ih =>
    obtain ⟨hd, hr⟩ := List.forall_mem_cons.mp checked
    by_cases hk : d.kind = .sleep
    · obtain ⟨ms, hm, he⟩ := check_sleep hd hk
      have hdur : d.duration? = some ms := by simp [duration?, hk, hm, Except.toOption]
      simp only [checkAll, he, List.filterMap_cons, hdur, Effect.slept?, List.singleton_append]
      exact (List.prefix_cons_inj ms).mpr (ih hr _)
    · have hdur : d.duration? = none := by simp [duration?, hk]
      have hn : (d.check h s).effects.filterMap Effect.slept? = [] := by
        cases hk' : d.kind with
        | present => simp [check, hk', Effect.slept?]
        | defined => simp [check, hk', Effect.slept?]
        | sleep => exact absurd hk' hk
      rcases hc : d.check h s with ⟨t, effects, value⟩
      rw [hc] at hn
      rw [List.filterMap_cons_none hdur]
      cases value with
      | ok b =>
        cases b with
        | true =>
          simp only [checkAll, hc, List.filterMap_append]
          rw [show effects.filterMap Effect.slept? = [] from hn, List.nil_append]
          exact ih hr t
        | false =>
          simp only [checkAll, hc]
          rw [show effects.filterMap Effect.slept? = [] from hn]
          exact List.nil_prefix
      | error why =>
        simp only [checkAll, hc]
        rw [show effects.filterMap Effect.slept? = [] from hn]
        exact List.nil_prefix

end Condition

namespace Action

variable {β : Type} {bridge : Bridge β} {timer : β → Nat → β} {s : Page × β}

theorem callPage_error {σ : Type} {h : Host σ} {s : σ} {a : Action} (args : a.args ≠ [])
    {reason : Text} (hv : (a.callPage h s).value = .error reason) (category deed : Text) :
    (EvaluationError.action category deed reason).FromScripts (a.callPage h s).effects := by
  have hn : a.args.isEmpty = false := by simpa using args
  rcases hc : h.call s ActionKind.call.name a.args with ⟨t, result⟩
  simp only [callPage, hn, hc, Bool.false_eq_true, if_false] at hv ⊢
  cases result with
  | ok v => simp at hv
  | error e =>
    cases hv
    exact .failed [] a.args category deed e

theorem perform_error {a : Action} (checked : a.Checked) {id : Nat}
    (found : s.1.select a.selector = .ok (some id)) {reason : Text}
    (hv : (a.perform (Host.ofPageAndTimer bridge timer) id s).value = .error reason)
    (category deed : Text) :
    (EvaluationError.action category deed reason).FromScripts
      (a.perform (Host.ofPageAndTimer bridge timer) id s).effects := by
  unfold perform at hv ⊢
  by_cases hk : a.kind = .call
  · rw [if_pos hk] at hv ⊢
    exact callPage_error (checked.args hk) hv category deed
  · rw [if_neg hk] at hv
    cases he : a.edit? with
    | none => simp [he] at hv
    | some e =>
      obtain ⟨q, hq⟩ := Page.exists_apply_of_select found e
      simp [he, Host.ofPageAndTimer, Host.ofPage, hq] at hv

theorem run_error {a : Action} (checked : a.Checked) {reason : Text}
    (hv : (a.run (Host.ofPageAndTimer bridge timer) s).value = .error reason)
    (category deed : Text) :
    (EvaluationError.action category deed reason).FromScripts
      (a.run (Host.ofPageAndTimer bridge timer) s).effects := by
  unfold run at hv ⊢
  by_cases hu : a.isUntargeted = true
  · have hk := checked.target hu
    have hn : a.kind.needsTarget = false := by simp [hk, ActionKind.needsTarget]
    simp only [hu, hn, if_true, Bool.false_eq_true, if_false] at hv ⊢
    exact (callPage_error (checked.args hk) hv category deed).prepend [.attempt a.toText]
  · obtain ⟨found, hf⟩ := Page.exists_select (p := s.1) checked.selector
    have hfind : (Host.ofPageAndTimer bridge timer).find s a.selector = (s, .ok found) := by
      simp [Host.ofPageAndTimer, Host.ofPage, hf]
    simp only [hu, hfind, if_false, Bool.false_eq_true] at hv ⊢
    cases found with
    | none => simp at hv
    | some id =>
      exact (perform_error checked hf hv category deed).prepend
        [.lookup a.selector, .attempt a.toText]

theorem runAll_error {as : List Action} (checked : ∀ a ∈ as, a.Checked) {a : Action}
    {reason : Text}
    (hv : (runAll (Host.ofPageAndTimer bridge timer) as s).value.2 = some (a, reason))
    (category : Text) :
    (EvaluationError.action category a.toText reason).FromScripts
      (runAll (Host.ofPageAndTimer bridge timer) as s).effects := by
  induction as generalizing s with
  | nil => simp [runAll] at hv
  | cons b rest ih =>
    obtain ⟨hb, hr⟩ := List.forall_mem_cons.mp checked
    have here : ∀ why, (b.run (Host.ofPageAndTimer bridge timer) s).value = .error why →
        ∀ category deed, (EvaluationError.action category deed why).FromScripts
          (b.run (Host.ofPageAndTimer bridge timer) s).effects :=
      fun why hw => run_error hb hw
    rcases hc : b.run (Host.ofPageAndTimer bridge timer) s with ⟨t, effects, value⟩
    rw [hc] at here
    cases value with
    | ok worked =>
      simp only [runAll, hc] at hv ⊢
      exact (ih hr hv).prepend effects
    | error why =>
      simp only [runAll, hc, Option.some.injEq, Prod.mk.injEq] at hv ⊢
      obtain ⟨rfl, rfl⟩ := hv
      exact here why rfl category b.toText

end Action

end Declutter
