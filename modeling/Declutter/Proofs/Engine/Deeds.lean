import Declutter.Proofs.Engine.Abort
import Declutter.Proofs.Engine.Fault
import Declutter.Html.Tree

namespace Declutter

/-- What an action makes of a page when it has its effect; none where it has none. -/
def Action.enact? (a : Action) (p : Page) : Option Page :=
  if a.isUntargeted then
    if a.kind.needsTarget then none else some p
  else match p.select a.selector with
    | .ok (some id) =>
      match a.edit? with
      | some e => (p.apply id e).toOption
      | none => some p
    | _ => none

/-- What actions make of a page that all have their effect, one after the other. -/
def Page.enactAll? (p : Page) (as : List Action) : Option Page :=
  as.foldlM (fun p a => a.enact? p) p

variable {β : Type} {bridge : Bridge β} {timer : β → Nat → β} {s t : Page × β}
  {effects : List Effect}

namespace Condition

theorem check_page (bridge : Bridge β) (timer : β → Nat → β) (c : Condition) (s : Page × β) :
    (c.check (Host.ofPageAndTimer bridge timer) s).state.1 = s.1 := by
  unfold check
  cases c.kind with
  | sleep =>
    dsimp only
    split <;> rfl
  | _ => rfl

theorem Hold.page {cs : List Condition}
    (hold : Hold (Host.ofPageAndTimer bridge timer) cs s effects t) : t.1 = s.1 := by
  induction hold with
  | nil => rfl
  | @cons c rest s t u asked later holds onward ih =>
    have here := c.check_page bridge timer s
    rw [holds] at here
    exact ih.trans here

theorem Stop.page {c : Condition} {verdict : Except Text Bool} {cs : List Condition}
    (stop : Stop (Host.ofPageAndTimer bridge timer) c verdict cs s effects t) : t.1 = s.1 := by
  induction stop with
  | @here rest s t asked check =>
    have here := c.check_page bridge timer s
    rwa [check] at here
  | @later d rest s t u asked later holds onward ih =>
    have here := d.check_page bridge timer s
    rw [holds] at here
    exact ih.trans here

end Condition

namespace Action

variable {a : Action} {value : Except Text Bool}

theorem callPage_page (bridge : Bridge β) (timer : β → Nat → β) (a : Action) (s : Page × β) :
    (a.callPage (Host.ofPageAndTimer bridge timer) s).state.1 = s.1 := by
  unfold callPage
  split <;> rfl

theorem perform_page {id : Nat}
    (ran : a.perform (Host.ofPageAndTimer bridge timer) id s = ⟨t, effects, value⟩) :
    (value = .ok true → (match a.edit? with
      | some e => (s.1.apply id e).toOption
      | none => some s.1) = some t.1) ∧ (value ≠ .ok true → t.1 = s.1) := by
  unfold perform at ran
  by_cases hk : a.kind = .call
  · have still := a.callPage_page bridge timer s
    rw [if_pos hk] at ran
    have same : t.1 = s.1 := by rwa [ran] at still
    simp [edit?, hk, same]
  · rw [if_neg hk] at ran
    cases he : a.edit? with
    | none =>
      simp only [he, Ran.mk.injEq] at ran
      obtain ⟨rfl, -, rfl⟩ := ran
      simp
    | some e =>
      cases applied : s.1.apply id e with
      | ok page =>
        simp only [he, Host.ofPageAndTimer, Host.ofPage, applied, Ran.mk.injEq] at ran
        obtain ⟨rfl, -, rfl⟩ := ran
        simp [Except.toOption, applied]
      | error why =>
        simp only [he, Host.ofPageAndTimer, Host.ofPage, applied, Ran.mk.injEq] at ran
        obtain ⟨rfl, -, rfl⟩ := ran
        simp

/-- An action that has an effect has it on the page, and any other leaves the page as it was. -/
theorem run_page (ran : a.run (Host.ofPageAndTimer bridge timer) s = ⟨t, effects, value⟩) :
    (value = .ok true → a.enact? s.1 = some t.1) ∧ (value ≠ .ok true → t.1 = s.1) := by
  unfold run at ran
  unfold enact?
  by_cases hu : a.isUntargeted
  · rw [if_pos hu] at ran ⊢
    by_cases hn : a.kind.needsTarget
    · rw [if_pos hn] at ran ⊢
      cases ran
      simp
    · have still := a.callPage_page bridge timer s
      rw [if_neg hn] at ran ⊢
      cases ran
      simp [still]
  · rw [if_neg hu] at ran ⊢
    have find : (Host.ofPageAndTimer bridge timer).find s a.selector =
        (s, s.1.select a.selector) := rfl
    rw [find] at ran
    rcases found : s.1.select a.selector with why | _ | id
    · simp only [found] at ran
      cases ran
      simp
    · simp only [found] at ran
      cases ran
      simp
    · simp only [found, Ran.mk.injEq] at ran
      obtain ⟨rfl, -, rfl⟩ := ran
      exact perform_page rfl

/-- The actions of a list that have had an effect. -/
def successful (as : List Action) (worked : List Bool) : List Action :=
  ((as.zip worked).filter Prod.snd).map Prod.fst

theorem successful_cons (a : Action) (rest : List Action) (works : Bool) (worked : List Bool) :
    successful (a :: rest) (works :: worked) =
      if works then a :: successful rest worked else successful rest worked := by
  cases works <;> rfl

variable {as : List Action} {worked : List Bool}

/-- An action that does not fail adds itself in front if it has had an effect, and else nothing. -/
theorem enactAll?_of_run {rest : List Action} {works : Bool} {u : Page}
    (ran : a.run (Host.ofPageAndTimer bridge timer) s = ⟨t, effects, .ok works⟩)
    (onward : t.1.enactAll? (successful rest worked) = some u) :
    s.1.enactAll? (successful (a :: rest) (works :: worked)) = some u := by
  obtain ⟨effective, idle⟩ := run_page ran
  rw [successful_cons]
  cases works with
  | true =>
    rw [if_pos rfl, Page.enactAll?, List.foldlM_cons, effective rfl]
    exact onward
  | false =>
    rw [if_neg (by simp), ← idle (by simp)]
    exact onward

theorem Performed.page
    (performed : Performed (Host.ofPageAndTimer bridge timer) as s worked effects t) :
    s.1.enactAll? (successful as worked) = some t.1 := by
  induction performed with
  | nil => rfl
  | cons ran onward ih => exact enactAll?_of_run ran ih

theorem Fail.page {reason : Text}
    (fail : Fail (Host.ofPageAndTimer bridge timer) a reason as s worked effects t) :
    s.1.enactAll? (successful as worked) = some t.1 := by
  induction fail with
  | here ran => exact congrArg some ((run_page ran).2 (by simp)).symm
  | later ran onward ih => exact enactAll?_of_run ran ih

end Action

namespace Visit

/-- The actions of a rule that have had an effect in a visit. -/
def deeds (v : Visit) (r : Rule) : List Action :=
  Action.successful r.actions v.worked

theorem deeds_eq_nil {v : Visit} (idle : v.completes = false) (r : Rule) : v.deeds r = [] := by
  have none : true ∉ v.worked := by simpa [completes] using idle
  rw [deeds, Action.successful, List.map_eq_nil_iff, List.filter_eq_nil_iff]
  rintro ⟨a, works⟩ hm worked
  exact none (worked ▸ (List.of_mem_zip hm).2)

variable {r : Rule} {v : Visit}

/-- A visit leaves the page that the actions which have had an effect make of it, also where a later
one fails. -/
theorem page_of_run (ran : run (Host.ofPageAndTimer bridge timer) r s = (t, v)) :
    s.1.enactAll? (v.deeds r) = some t.1 := by
  unfold deeds
  cases error : v.error with
  | none =>
    have through := through_of_run ran error
    generalize v.worked = worked, v.effects = effects at through
    cases through with
    | refused stop =>
      rw [Action.successful, List.zip_nil_right]
      exact congrArg some stop.page.symm
    | acted hold performed =>
      rw [← hold.page]
      exact performed.page
  | some e =>
    have fail := fail_of_run ran error
    generalize v.worked = worked, v.effects = effects at fail
    cases fail with
    | guard stop =>
      rw [Action.successful, List.zip_nil_right]
      exact congrArg some stop.page.symm
    | action hold fail =>
      rw [← hold.page]
      exact fail.page

end Visit

namespace Pass

/-- The actions that have had an effect among the rules that have come to be completed, in the order
of the rules and of their actions. -/
def deedsAmong (before after : List Rule) (visits : List (Option Visit)) : List Action :=
  (Rule.newlyCompleted before after).flatMap fun i =>
    match before[i]?, visits[i]?.join with
    | some r, some v => v.deeds r
    | _, _ => []

def deeds {σ : Type} (p : Pass σ) (rules : List Rule) : List Action :=
  deedsAmong rules p.engine.rules p.visits

theorem deedsAmong_cons (r q : Rule) (before after : List Rule) (v : Option Visit)
    (visits : List (Option Visit)) :
    deedsAmong (r :: before) (q :: after) (v :: visits) =
      (if !r.completed && q.completed then (v.map fun v => v.deeds r).getD [] else []) ++
        deedsAmong before after visits := by
  rw [deedsAmong, Rule.newlyCompleted_cons, List.flatMap_append, List.flatMap_map]
  congr 1
  split
  · cases v <;> simp
  · rfl

theorem deedsAmong_self (rules : List Rule) (visits : List (Option Visit)) :
    deedsAmong rules rules visits = [] := by
  rw [deedsAmong, Rule.newlyCompleted_self, List.flatMap_nil]

/-- A visited rule adds what has had an effect in its visit; if there is nothing, it is not
completed. -/
theorem deedsAmong_visit {r : Rule} (pending : r.completed = false) (v : Visit)
    (before after : List Rule) (visits : List (Option Visit)) :
    deedsAmong (r :: before) (v.latch r :: after) (some v :: visits) =
      v.deeds r ++ deedsAmong before after visits := by
  rw [deedsAmong_cons]
  cases completes : v.completes with
  | true => simp [pending, Visit.latch, completes]
  | false => simp [pending, Visit.latch, completes, Visit.deeds_eq_nil completes]

variable {counts : Tally} {rules : List Rule} {p : Pass (Page × β)}

theorem Course.page (c : Course (Host.ofPageAndTimer bridge timer) s counts rules p) :
    s.1.enactAll? (p.deeds rules) = some p.state.1 := by
  unfold deeds
  induction c with
  | done => rfl
  | skip completed onward ih =>
    rw [deedsAmong_cons]
    simpa [completed] using ih
  | abort pending visit failed =>
    -- The rules behind stay as they were, so none of them is newly completed.
    rw [deedsAmong_visit pending, deedsAmong_self, List.append_nil]
    exact Visit.page_of_run visit
  | visit pending visit well onward ih =>
    rw [deedsAmong_visit pending, Page.enactAll?, List.foldlM_append]
    have here := Visit.page_of_run visit
    rw [Page.enactAll?] at here
    rw [here]
    exact ih

end Pass

namespace Engine

/-- A pass, aborted or not, leaves the page that the actions make of it which have had an effect and
whose rules it completes, in the order of the rules and of their actions. If it completes none, the
page is as it was. -/
theorem page_of_pass (x : Engine) (w : PageSurroundings) :
    w.page.enactAll? ((x.passIn w.toSurroundings).deeds x.rules) =
        some (x.passIn w.toSurroundings).state.1 ∧
      (Rule.newlyCompleted x.rules (x.passIn w.toSurroundings).engine.rules = [] →
        (x.passIn w.toSurroundings).state.1 = w.page) := by
  have made : w.page.enactAll? ((x.passIn w.toSurroundings).deeds x.rules) =
      some (x.passIn w.toSurroundings).state.1 := (x.passIn_course w.toSurroundings).page
  refine ⟨made, fun none => ?_⟩
  rw [Pass.deeds, Pass.deedsAmong, none] at made
  exact (Option.some.inj made).symm

/-- A page with a paragraph, whose scripts have gone away. -/
def walledPage : PageSurroundings where
  Scripts := Unit
  page := Page.parse "<p class=wall>a</p>".toList
  scripts := ()
  bridge := ⟨fun s _ _ => (s, .error .disconnected)⟩
  timer := fun s _ => s

/-- The class that a rule gives to the wall before it calls the scripts. -/
def marking : Action :=
  ⟨".wall".toList, "addClass".toList, ["seen".toList], .addClass⟩

def markedCall : Rule :=
  ⟨"paywall".toList, [], [⟨".veil".toList, "remove".toList, [], .remove⟩, marking,
    ⟨"call".toList, "call".toList, ["app.close".toList], .call⟩], false⟩

/-- A rule whose second guard is false. -/
def guardedRemoval : Rule :=
  ⟨"paywall".toList, [⟨"exists".toList, ".wall".toList, .present⟩,
    ⟨"exists".toList, ".veil".toList, .present⟩],
    [⟨".wall".toList, "remove".toList, [], .remove⟩], false⟩

/-- The pass is aborted by the call of the second rule, and what it leaves is the class given to the
wall. Without that rule it leaves the page as it was. -/
theorem page_of_pass_marking :
    let p := (ofRules [guardedRemoval, markedCall]).passIn walledPage.toSurroundings
    let q := (ofRules [guardedRemoval]).passIn walledPage.toSurroundings
    p.error.isSome = true ∧ p.deeds [guardedRemoval, markedCall] = [marking] ∧
      walledPage.page.enactAll? [marking] = some p.state.1 ∧
      Rule.newlyCompleted [guardedRemoval] q.engine.rules = [] ∧ q.state.1 = walledPage.page := by
  intro p q
  have done : p.deeds [guardedRemoval, markedCall] = [marking] := by decide +kernel
  have none : Rule.newlyCompleted [guardedRemoval] q.engine.rules = [] := by decide +kernel
  refine ⟨by decide +kernel, done, ?_, none, ?_⟩
  · rw [← done]
    dsimp only [p]
    exact (page_of_pass (ofRules [guardedRemoval, markedCall]) walledPage).1
  · dsimp only [q]
    exact (page_of_pass (ofRules [guardedRemoval]) walledPage).2 none

end Engine

end Declutter
