import Declutter.Engine.Host
import Declutter.Json.Writer
import Declutter.Rule.Argument
import Declutter.Rule.Basic

namespace Declutter

/-- Why a pass is aborted: a condition or an action of a rule has failed. -/
inductive EvaluationError
  | predicate (category condition reason : Text)
  | action (category action reason : Text)
deriving DecidableEq, Repr

def EvaluationError.message : EvaluationError → Text
  | .predicate category guard reason =>
    category ++ ": guard ".toList ++ guard ++ " failed: ".toList ++ reason
  | .action category deed reason =>
    category ++ ": action ".toList ++ deed ++ " failed: ".toList ++ reason

/-- The outcome of running something: the state it leaves, its effects in order, and its value. -/
structure Ran (σ α : Type) where
  state : σ
  effects : List Effect
  value : α

namespace Condition

/-- What an answer to the question for a definition means. -/
def definedness : Except BridgeError Json → Except Text Bool
  | .ok (.bool b) => .ok b
  | .ok v => .error ("expected a boolean, got ".toList ++ v.compact)
  | .error e => .error e.message

/-- Whether a condition holds, or why that cannot be told. -/
def check {σ : Type} (h : Host σ) (c : Condition) (s : σ) : Ran σ (Except Text Bool) :=
  let argument := Text.unquote c.argument
  match c.kind with
  | .present =>
    let (s, found) := h.find s argument
    ⟨s, [.lookup argument], match found with
      | .ok found => .ok found.isSome
      | .error e => .error e.message⟩
  | .defined =>
    let (s, result) := h.call s PredicateKind.defined.name [argument]
    ⟨s, [.call PredicateKind.defined.name [argument] result], definedness result⟩
  | .sleep =>
    match Argument.duration argument with
    | .ok ms => ⟨h.sleep s ms, [.sleep ms], .ok true⟩
    | .error e => ⟨s, [], .error e.message⟩

/-- Whether all conditions hold. None is checked after the first that does not. -/
def checkAll {σ : Type} (h : Host σ) : List Condition → σ →
    Ran σ (Except (Condition × Text) Bool)
  | [], s => ⟨s, [], .ok true⟩
  | c :: rest, s =>
    match check h c s with
    | ⟨s, effects, .ok true⟩ =>
      let later := checkAll h rest s
      ⟨later.state, effects ++ later.effects, later.value⟩
    | ⟨s, effects, .ok false⟩ => ⟨s, effects, .ok false⟩
    | ⟨s, effects, .error reason⟩ => ⟨s, effects, .error (c, reason)⟩

end Condition

namespace Action

/-- The class names in the arguments of an action. -/
def classNames (args : List Text) : List Text :=
  args.flatMap Text.words

/-- The change that an action makes to its element, if it makes one. -/
def edit? (a : Action) : Option Edit :=
  match a.kind with
  | .remove => some .remove
  | .addClass => some (.addClasses (classNames a.args))
  | .removeClass =>
    if a.args.head? = some ['*'] then some .clearClasses
    else some (.removeClasses (classNames a.args))
  | .addStyle => a.args.head?.map .appendStyle
  | .removeStyle => some .clearStyle
  | .call => none

/-- Calls the page function that the arguments of an action name. -/
def callPage {σ : Type} (h : Host σ) (a : Action) (s : σ) : Ran σ (Except Text Bool) :=
  if a.args.isEmpty then ⟨s, [], .error "call needs a function path".toList⟩
  else
    let (s, result) := h.call s ActionKind.call.name a.args
    ⟨s, [.call ActionKind.call.name a.args result], match result with
      | .ok _ => .ok true
      | .error e => .error e.message⟩

/-- What an action does to its element, or in the scripts of the page. -/
def perform {σ : Type} (h : Host σ) (a : Action) (target : h.Handle) (s : σ) :
    Ran σ (Except Text Bool) :=
  if a.kind = .call then a.callPage h s
  else match a.edit? with
    | none => ⟨s, [], .ok true⟩
    | some e =>
      let (s, result) := h.apply s target e
      ⟨s, [.edit e], match result with
        | .ok () => .ok true
        | .error e => .error e.message⟩

/-- Runs an action, and tells whether it has had an effect: one without its element has none. -/
def run {σ : Type} (h : Host σ) (a : Action) (s : σ) : Ran σ (Except Text Bool) :=
  if a.isUntargeted then
    if a.kind.needsTarget then
      ⟨s, [], .error (a.kind.name ++ " needs an element target".toList)⟩
    else
      let called := a.callPage h s
      ⟨called.state, .attempt a.toText :: called.effects, called.value⟩
  else match h.find s a.selector with
    | (s, .error e) => ⟨s, [.lookup a.selector], .error e.message⟩
    | (s, .ok none) => ⟨s, [.lookup a.selector], .ok false⟩
    | (s, .ok (some target)) =>
      let done := a.perform h target s
      ⟨done.state, .lookup a.selector :: .attempt a.toText :: done.effects, done.value⟩

/-- Runs actions up to the first that fails, and tells for each before it whether it has had an
effect. -/
def runAll {σ : Type} (h : Host σ) : List Action → σ →
    Ran σ (List Bool × Option (Action × Text))
  | [], s => ⟨s, [], [], none⟩
  | a :: rest, s =>
    match run h a s with
    | ⟨s, effects, .error reason⟩ => ⟨s, effects, [], some (a, reason)⟩
    | ⟨s, effects, .ok worked⟩ =>
      let later := runAll h rest s
      ⟨later.state, effects ++ later.effects, worked :: later.value.1, later.value.2⟩

end Action

/-- What a pass does with one rule: which of its actions have had an effect, all that was done, and
the error that ends it. -/
structure Visit where
  worked : List Bool
  effects : List Effect
  error : Option EvaluationError

namespace Visit

/-- Whether the rule is completed by the visit. -/
def completes (v : Visit) : Bool :=
  v.worked.contains true

/-- The visit of a rule that is not completed. -/
def run {σ : Type} (h : Host σ) (r : Rule) (s : σ) : σ × Visit :=
  match Condition.checkAll h r.conditions s with
  | ⟨s, effects, .error (c, reason)⟩ =>
    (s, ⟨[], effects, some (.predicate r.category c.toText reason)⟩)
  | ⟨s, effects, .ok false⟩ => (s, ⟨[], effects, none⟩)
  | ⟨s, effects, .ok true⟩ =>
    let done := Action.runAll h r.actions s
    (done.state, ⟨done.value.1, effects ++ done.effects,
      done.value.2.map fun (a, reason) => .action r.category a.toText reason⟩)

end Visit

end Declutter
