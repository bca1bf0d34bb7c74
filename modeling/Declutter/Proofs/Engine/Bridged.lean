import Declutter.Proofs.Bridge.Calling
import Declutter.Proofs.Engine.Latch
import Declutter.Proofs.Engine.Play

namespace Declutter

/-- Surroundings in which the scripts of the page are reached over a bridge. -/
def Host.bridged {δ β : Type} (h : Host δ) (b : Bridge β) : Host (δ × β) where
  Handle := h.Handle
  find s selector :=
    let (d, found) := h.find s.1 selector
    ((d, s.2), found)
  apply s target e :=
    let (d, result) := h.apply s.1 target e
    ((d, s.2), result)
  call s function args :=
    let (next, result) := b.call s.2 function args
    ((s.1, next), result)
  sleep s ms := (h.sleep s.1 ms, s.2)

/-- A page without its scripts. -/
def Host.page : Host Page where
  Handle := Nat
  find p selector := (p, p.select selector)
  apply p id e :=
    match p.apply id e with
    | .ok next => (next, .ok ())
    | .error error => (p, .error error)
  call p _ _ := (p, .error .disconnected)
  sleep p _ := p

/-- A page with a bridge is a page whose scripts are reached over it. -/
theorem Host.ofPage_eq {β : Type} (b : Bridge β) : Host.ofPage b = Host.page.bridged b := by
  unfold ofPage bridged page
  congr 1
  funext s id e
  dsimp only
  cases s.1.apply id e <;> rfl

section Simulation

variable {δ α β : Type} {related : α → β → Prop}

/-- What is run over two bridges comes to the same on the page, and leaves the bridges in related
states. -/
def Ran.Alike {ν : Type} (related : α → β → Prop) (x : Ran (δ × α) ν) (y : Ran (δ × β) ν) : Prop :=
  ∃ d s t effects value, related s t ∧ x = ⟨(d, s), effects, value⟩ ∧
    y = ⟨(d, t), effects, value⟩

theorem Ran.alike_intro {ν : Type} {d : δ} {s : α} {t : β} (beside : related s t)
    (effects : List Effect) (value : ν) :
    Ran.Alike related (⟨(d, s), effects, value⟩ : Ran (δ × α) ν) ⟨(d, t), effects, value⟩ :=
  ⟨d, s, t, effects, value, beside, rfl, rfl⟩

variable {a : Bridge α} {b : Bridge β} (sim : a.Simulates b related) (h : Host δ)
include sim

theorem Condition.check_alike (c : Condition) {s : α} {t : β} (beside : related s t) (d : δ) :
    (check (h.bridged a) c (d, s)).Alike related (check (h.bridged b) c (d, t)) := by
  unfold check
  cases c.kind with
  | present =>
    rcases found : h.find d (Text.unquote c.argument) with ⟨d', e | x⟩ <;>
      simp only [Host.bridged, found] <;> exact Ran.alike_intro beside _ _
  | defined =>
    obtain ⟨beside, same⟩ := sim s t beside PredicateKind.defined.name [Text.unquote c.argument]
    simp only [Host.bridged, same]
    exact Ran.alike_intro beside _ _
  | sleep =>
    dsimp only
    split
    · exact Ran.alike_intro beside _ _
    · exact Ran.alike_intro beside _ _

theorem Condition.checkAll_alike (cs : List Condition) {s : α} {t : β} (beside : related s t)
    (d : δ) :
    (checkAll (h.bridged a) cs (d, s)).Alike related (checkAll (h.bridged b) cs (d, t)) := by
  induction cs generalizing s t d with
  | nil => exact Ran.alike_intro beside _ _
  | cons c rest ih =>
    obtain ⟨d, s, t, effects, value, beside, left, right⟩ := check_alike sim h c beside d
    rw [checkAll, checkAll, left, right]
    match value with
    | .ok true =>
      obtain ⟨d, s, t, later, value, beside, left, right⟩ := ih beside d
      simp only [left, right]
      exact Ran.alike_intro beside _ _
    | .ok false => exact Ran.alike_intro beside _ _
    | .error reason => exact Ran.alike_intro beside _ _

theorem Action.callPage_alike (x : Action) {s : α} {t : β} (beside : related s t) (d : δ) :
    (x.callPage (h.bridged a) (d, s)).Alike related (x.callPage (h.bridged b) (d, t)) := by
  unfold callPage
  split
  · exact Ran.alike_intro beside _ _
  · obtain ⟨beside, same⟩ := sim s t beside ActionKind.call.name x.args
    simp only [Host.bridged, same]
    exact Ran.alike_intro beside _ _

theorem Action.perform_alike (x : Action) (target : h.Handle) {s : α} {t : β}
    (beside : related s t) (d : δ) :
    (x.perform (h.bridged a) target (d, s)).Alike related
      (x.perform (h.bridged b) target (d, t)) := by
  unfold perform
  split
  · exact callPage_alike sim h x beside d
  · split
    · exact Ran.alike_intro beside _ _
    · exact Ran.alike_intro beside _ _

theorem Action.run_alike (x : Action) {s : α} {t : β} (beside : related s t) (d : δ) :
    (x.run (h.bridged a) (d, s)).Alike related (x.run (h.bridged b) (d, t)) := by
  unfold run
  split
  · split
    · exact Ran.alike_intro beside _ _
    · obtain ⟨d, s, t, effects, value, beside, left, right⟩ := callPage_alike sim h x beside d
      rw [left, right]
      exact Ran.alike_intro beside _ _
  · rcases found : h.find d x.selector with ⟨d', e | _ | target⟩
    · simp only [Host.bridged, found]
      exact Ran.alike_intro beside _ _
    · simp only [Host.bridged, found]
      exact Ran.alike_intro beside _ _
    · obtain ⟨d, s, t, effects, value, beside, left, right⟩ :=
        perform_alike sim h x target beside d'
      simp only [Host.bridged] at left right
      simp only [Host.bridged, found, left, right]
      exact Ran.alike_intro beside _ _

theorem Action.runAll_alike (xs : List Action) {s : α} {t : β} (beside : related s t) (d : δ) :
    (runAll (h.bridged a) xs (d, s)).Alike related (runAll (h.bridged b) xs (d, t)) := by
  induction xs generalizing s t d with
  | nil => exact Ran.alike_intro beside _ _
  | cons x rest ih =>
    obtain ⟨d, s, t, effects, value, beside, left, right⟩ := run_alike sim h x beside d
    rw [runAll, runAll, left, right]
    cases value with
    | error reason => exact Ran.alike_intro beside _ _
    | ok worked =>
      obtain ⟨d, s, t, later, value, beside, left, right⟩ := ih beside d
      simp only [left, right]
      exact Ran.alike_intro beside _ _

theorem Visit.exists_run (r : Rule) {s : α} {t : β} (beside : related s t) (d : δ) :
    ∃ d' s' t' v, related s' t' ∧ Visit.run (h.bridged a) r (d, s) = ((d', s'), v) ∧
      Visit.run (h.bridged b) r (d, t) = ((d', t'), v) := by
  obtain ⟨d, s, t, effects, value, beside, left, right⟩ :=
    Condition.checkAll_alike sim h r.conditions beside d
  rw [run, run, left, right]
  match value with
  | .error (c, reason) => exact ⟨d, s, t, _, beside, rfl, rfl⟩
  | .ok false => exact ⟨d, s, t, _, beside, rfl, rfl⟩
  | .ok true =>
    obtain ⟨d, s, t, effects, value, beside, left, right⟩ :=
      Action.runAll_alike sim h r.actions beside d
    simp only [left, right]
    exact ⟨d, s, t, _, beside, rfl, rfl⟩

/-- A pass apart from what it leaves of its bridge. -/
def Pass.onPage {β : Type} (p : Pass (δ × β)) : Pass δ :=
  { p with state := p.state.1 }

theorem Engine.visitAll_onPage (rules : List Rule) (counts : Tally) {s : α} {t : β}
    (beside : related s t) (d : δ) :
    (visitAll (h.bridged a) (d, s) counts rules).onPage =
        (visitAll (h.bridged b) (d, t) counts rules).onPage ∧
      related (visitAll (h.bridged a) (d, s) counts rules).state.2
        (visitAll (h.bridged b) (d, t) counts rules).state.2 := by
  induction rules generalizing counts s t d with
  | nil => exact ⟨rfl, beside⟩
  | cons r rest ih =>
    rw [visitAll, visitAll]
    split
    · obtain ⟨same, beside⟩ := ih counts beside d
      refine ⟨?_, beside⟩
      exact congrArg (fun p => { p with
        engine := { p.engine with rules := r :: p.engine.rules }
        visits := none :: p.visits }) same
    · obtain ⟨d, s, t, v, beside, left, right⟩ := Visit.exists_run sim h r beside d
      rw [left, right]
      dsimp only
      split
      · exact ⟨rfl, beside⟩
      · obtain ⟨same, beside⟩ := ih (v.count r counts) beside d
        refine ⟨?_, beside⟩
        exact congrArg (fun p => { p with
          engine := { p.engine with rules := v.latch r :: p.engine.rules }
          visits := some v :: p.visits
          reports := v.news r counts ++ p.reports }) same

end Simulation

namespace Occasion

variable {δ β : Type}

/-- The same occasion with the scripts of the page behind a bridge. -/
def bridged (b : Bridge β) (o : Occasion δ) : Occasion (δ × β) where
  host := o.host.bridged b
  before s := (o.before s.1, s.2)

/-- An occasion on a page with a bridge to its scripts. -/
def ofPage (b : Bridge β) (before : Page → Page) : Occasion (Page × β) where
  host := .ofPage b
  before s := (before s.1, s.2)

theorem map_ofPage (b : Bridge β) (befores : List (Page → Page)) :
    befores.map (ofPage b) = (befores.map (Occasion.mk .page)).map (bridged b) := by
  rw [List.map_map]
  refine List.map_congr_left fun before _ => ?_
  rw [ofPage, Host.ofPage_eq]
  rfl

end Occasion

/-- What passes leave apart from their bridge. -/
def Played.onPage {δ β : Type} (x : Played (δ × β)) : Played δ :=
  ⟨x.passes.map Pass.onPage, x.engine, x.state.1⟩

namespace Engine

variable {δ α β : Type} {a : Bridge α} {b : Bridge β} {related : α → β → Prop}

/-- Passes do the same over two bridges of which one simulates the other. -/
theorem play_onPage (sim : a.Simulates b related) (x : Engine) {s : α} {t : β}
    (beside : related s t) (d : δ) (os : List (Occasion δ)) :
    (x.play (d, s) (os.map (.bridged a))).onPage =
      (x.play (d, t) (os.map (.bridged b))).onPage := by
  induction os generalizing x s t d with
  | nil => rfl
  | cons o os ih =>
    have here := visitAll_onPage sim o.host x.rules x.counts beside (o.before d)
    simp only [List.map_cons, play, pass, Occasion.bridged]
    generalize visitAll (o.host.bridged a) (o.before d, s) x.counts x.rules = p at here ⊢
    generalize visitAll (o.host.bridged b) (o.before d, t) x.counts x.rules = q at here ⊢
    obtain ⟨⟨d, s⟩, engine, visits, reports, error⟩ := p
    obtain ⟨⟨e, t⟩, engine', visits', reports', error'⟩ := q
    obtain ⟨same, beside⟩ := here
    obtain ⟨rfl, rfl, rfl, rfl, rfl⟩ := Pass.mk.inj same
    exact congrArg (Played.preceded _) (ih engine beside d)

theorem play_ofPage (sim : a.Simulates b related) (x : Engine) {s : α} {t : β}
    (beside : related s t) (p : Page) (befores : List (Page → Page)) :
    (x.play (p, s) (befores.map (.ofPage a))).onPage =
      (x.play (p, t) (befores.map (.ofPage b))).onPage := by
  rw [Occasion.map_ofPage, Occasion.map_ofPage]
  exact x.play_onPage sim beside p _

end Engine

namespace Serving

variable {φ : Type} [Callable φ]

/-- To serve a scope is to handle what is sent to it. Passes whose calls go over the served channel,
whatever has been done with it before and however each call is timed, do the same as passes that
call the scope directly, as it is once it has handled what was sent before. So do passes over a
service. All this holds in any surroundings, and so on a page that is searched and edited. Where the
numbers of the calls fit 64 bits is said by `ids_fit`. -/
theorem faithful_passes (scope : PageScope φ) (ts : List Turn) :
    Faithful scope ts ∧
    (∀ {δ : Type} (timing : Nat → Timing) (x : Engine) (d : δ) (os : List (Occasion δ)),
      (x.play (d, (start scope).after ts) (os.map (.bridged (bridge timing)))).onPage =
        (x.play (d, scope.behind (ledger scope ts).begun)
          (os.map (.bridged PageScope.bridge))).onPage) ∧
    (∀ {δ : Type} (x : Engine) (d : δ) (os : List (Occasion δ)),
      (x.play (d, Service.ofScope scope) (os.map (.bridged Service.bridge))).onPage =
        (x.play (d, scope) (os.map (.bridged PageScope.bridge))).onPage) ∧
    (∀ (timing : Nat → Timing) (x : Engine) (p : Page) (befores : List (Page → Page)),
      (x.play (p, (start scope).after ts) (befores.map (.ofPage (bridge timing)))).onPage =
        (x.play (p, scope.behind (ledger scope ts).begun)
          (befores.map (.ofPage PageScope.bridge))).onPage) ∧
    ∀ (x : Engine) (p : Page) (befores : List (Page → Page)),
      (x.play (p, Service.ofScope scope) (befores.map (.ofPage Service.bridge))).onPage =
        (x.play (p, scope) (befores.map (.ofPage PageScope.bridge))).onPage := by
  have onTime (timing : Nat → Timing) := simulates scope timing
  have beside : Beside scope ((start scope).after ts) (scope.behind (ledger scope ts).begun) :=
    ⟨ts, rfl, rfl⟩
  refine ⟨faithful scope ts, fun timing x d os => ?_, fun x d os => ?_, fun timing x p befores => ?_,
    fun x p befores => ?_⟩
  · exact x.play_onPage (onTime timing) beside d os
  · exact x.play_onPage Service.simulates ⟨0, rfl⟩ d os
  · exact x.play_ofPage (onTime timing) beside p befores
  · exact x.play_ofPage Service.simulates ⟨0, rfl⟩ p befores

end Serving

/-- A page function that counts its calls, together with those of the other functions. -/
structure ClickCounter where
  clicks : Nat
deriving DecidableEq, Repr

instance : Callable ClickCounter where
  apply f _ := (⟨f.clicks + 1⟩, .ok (.int (f.clicks + 1)))
  affect called _ := called

namespace Serving

/-- A page that counts how often its message is dismissed or closed. -/
def dismissible : PageScope ClickCounter :=
  ((PageScope.ofGlobals (.object [])).define "app.dismiss".toList ⟨0⟩).define "app.close".toList ⟨0⟩

/-- Two calls, of which the first is given up before it is served. -/
def impatience : List Turn :=
  [.call "call".toList ["app.dismiss".toList], .call "call".toList ["app.close".toList],
    .abandon 1, .serve, .poll 2, .serve, .serve, .serve, .poll 2]

/-- The call that was given up is counted by the function of the other one, and a pass then does
what it does with a direct call. -/
theorem faithful_passes_impatience :
    ∃ e ∈ (start dismissible).record impatience, e.result? = some (2, .ok (.int 2)) ∧
      (∃ q r, q.id = 2 ∧ dismissible.Answers (ledger dismissible impatience).begun q r ∧
        .ok (.int 2) = r.outcome q.function) ∧
      ((Engine.ofRules [Engine.dismissal]).play ((), (start dismissible).after impatience)
        ([⟨Engine.mutePage.host, id⟩].map
          (.bridged (bridge fun _ => ⟨1, [.poll, .serve]⟩)))).engine.isFinished = true := by
  have last : (start dismissible).record impatience =
      (start dismissible).record (impatience.take 8) ++
        [⟨.poll 2, .polled (.finished (.ok (.int 2)))⟩] := rfl
  obtain ⟨served, passes, -⟩ := faithful_passes dismissible impatience
  have here : ⟨.poll 2, .polled (.finished (.ok (.int 2)))⟩ ∈
      (start dismissible).record impatience := last ▸ List.mem_append_right _ (by simp)
  refine ⟨_, here, rfl, served.results _ here 2 _ rfl, ?_⟩
  have same := congrArg Played.engine (passes (fun _ => ⟨1, [.poll, .serve]⟩)
    (.ofRules [Engine.dismissal]) () [⟨Engine.mutePage.host, id⟩])
  refine (congrArg Engine.isFinished same).trans ?_
  decide +kernel

end Serving

end Declutter
