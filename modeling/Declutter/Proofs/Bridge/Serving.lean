import Declutter.Proofs.Bridge.Delivery
import Declutter.Proofs.Bridge.Service

namespace Declutter

/-- A channel with the scope at its other end, which holds the answer to the request that it has
handled last until it gives it. -/
structure Serving (φ : Type) where
  channel : Channel
  scope : PageScope φ
  held : Option PageResponse

namespace Serving

/-- What the callers may do while a scope is served, and its turn to go on. -/
inductive Turn
  | call (function : Text) (args : List Text)
  | poll (id : Nat)
  | abandon (id : Nat)
  | serve
deriving DecidableEq, Repr

variable {φ : Type}

def start (scope : PageScope φ) : Serving φ := ⟨.fresh, scope, none⟩

/-- The step of the channel in a turn. -/
def move (s : Serving φ) : Turn → Channel.Step
  | .call function args => .call function args
  | .poll id => .poll id
  | .abandon id => .abandon id
  | .serve => match s.held with
    | some r => .respond r
    | none => .receive

theorem move_ends (s : Serving φ) (t : Turn) :
    (s.channel.step (s.move t)).1.ends = s.channel.ends := by
  have ends := s.channel.step_ends (s.move t)
  cases t with
  | serve =>
    unfold move at ends ⊢
    cases hh : s.held <;> simpa [hh] using ends
  | _ => exact ends

def event (s : Serving φ) (t : Turn) : Channel.Event :=
  ⟨s.move t, (s.channel.step (s.move t)).2⟩

theorem event_serve (s : Serving φ) :
    (s.event .serve).begun? = none ∧ (s.event .serve).closed? = none := by
  unfold event move
  cases s.held <;> exact ⟨rfl, rfl⟩

variable [Callable φ]

/-- What a turn comes to. The scope gives the answer that it holds, or else handles the next request
if there is one. -/
def turn (s : Serving φ) (t : Turn) : Serving φ :=
  let (channel, reply) := s.channel.step (s.move t)
  match t, s.held, reply with
  | .serve, some _, _ => ⟨channel, s.scope, none⟩
  | .serve, none, .received (.request q) =>
    ⟨channel, (s.scope.handle q).1, some (s.scope.handle q).2⟩
  | _, held, _ => ⟨channel, s.scope, held⟩

def after (s : Serving φ) : List Turn → Serving φ
  | [] => s
  | t :: rest => (s.turn t).after rest

def moves (s : Serving φ) : List Turn → List Channel.Step
  | [] => []
  | t :: rest => s.move t :: (s.turn t).moves rest

theorem turn_channel (s : Serving φ) (t : Turn) :
    (s.turn t).channel = (s.channel.step (s.move t)).1 := by
  unfold turn
  dsimp only
  split <;> rfl

theorem channel_after (s : Serving φ) (ts : List Turn) :
    (s.after ts).channel = s.channel.after (s.moves ts) := by
  induction ts generalizing s with
  | nil => rfl
  | cons t rest ih => rw [after, ih, turn_channel, moves, Channel.after]

theorem after_append (s : Serving φ) (ts us : List Turn) :
    s.after (ts ++ us) = (s.after ts).after us := by
  induction ts generalizing s with
  | nil => rfl
  | cons t rest ih => exact ih (s.turn t)

theorem after_concat (s : Serving φ) (ts : List Turn) (t : Turn) :
    s.after (ts ++ [t]) = (s.after ts).turn t :=
  s.after_append ts [t]

theorem moves_append (s : Serving φ) (ts us : List Turn) :
    s.moves (ts ++ us) = s.moves ts ++ (s.after ts).moves us := by
  induction ts generalizing s with
  | nil => rfl
  | cons t rest ih => exact congrArg (s.move t :: ·) (ih (s.turn t))

def record (s : Serving φ) (ts : List Turn) : List Channel.Event :=
  s.channel.record (s.moves ts)

theorem record_append (s : Serving φ) (ts us : List Turn) :
    s.record (ts ++ us) = s.record ts ++ (s.after ts).record us := by
  rw [record, moves_append, Channel.record_append, ← channel_after]
  rfl

theorem record_concat (s : Serving φ) (ts : List Turn) (t : Turn) :
    s.record (ts ++ [t]) = s.record ts ++ [(s.after ts).event t] :=
  s.record_append ts [t]

/-- A served scope is in step with its ledger: what has been sent is handled or in the queue, and
what has been handled is answered, ended, or about to be answered. -/
structure InStep (scope : PageScope φ) (handled : List PageRequest) (l : Ledger) (s : Serving φ) :
    Prop where
  ends : s.channel.ends = (true, true)
  agrees : Channel.Agrees l s.channel
  begun : l.begun = handled ++ s.channel.queue
  left : s.scope = scope.behind handled
  answers : ∀ r, r ∈ l.accepted ∨ s.held = some r → ∃ q, scope.Answers handled q r
  settled : ∀ q ∈ handled, q.id ∈ l.closed ∨ l.isAnswered q.id = true ∨
    ∃ r, s.held = some r ∧ r.id = q.id

theorem inStep_start (scope : PageScope φ) : InStep scope [] ⟨[], [], []⟩ (start scope) where
  ends := rfl
  agrees := Channel.agrees_fresh
  begun := rfl
  left := rfl
  answers r h := by simp [start] at h
  settled := by simp

namespace InStep

variable {scope : PageScope φ} {handled : List PageRequest} {l : Ledger} {s : Serving φ}

theorem hasEndpoint (h : InStep scope handled l s) : s.channel.hasEndpoint = true :=
  congrArg Prod.snd h.ends

theorem hasClient (h : InStep scope handled l s) : s.channel.hasClient = true :=
  congrArg Prod.fst h.ends

theorem ends_turn (h : InStep scope handled l s) (t : Turn) :
    (s.turn t).channel.ends = (true, true) := by
  rw [turn_channel, move_ends, h.ends]

theorem agrees_turn (h : InStep scope handled l s) (t : Turn) :
    Channel.Agrees (l.note (s.event t)) (s.turn t).channel := by
  rw [turn_channel]
  exact h.agrees.step (s.move t)

theorem serve_held (h : InStep scope handled l s) {r : PageResponse} (held : s.held = some r) :
    s.turn .serve = ⟨(s.channel.respond r).1, s.scope, none⟩ ∧
      s.event .serve = ⟨.respond r, .responded (s.channel.respond r).2⟩ := by
  have moved : s.move .serve = .respond r := by simp only [move, held]
  have stepped : s.channel.step (.respond r) =
      ((s.channel.respond r).1, .responded (s.channel.respond r).2) := by
    simp only [Channel.step, h.hasEndpoint, if_true]
  constructor
  · simp only [Serving.turn, moved, stepped, held]
  · rw [event, moved, stepped]

theorem serve_next (h : InStep scope handled l s) {q : PageRequest} {queue : List PageRequest}
    (held : s.held = none) (next : s.channel.queue = q :: queue) :
    s.turn .serve =
        ⟨{ s.channel with queue }, (s.scope.handle q).1, some (s.scope.handle q).2⟩ ∧
      s.event .serve = ⟨.receive, .received (.request q)⟩ := by
  have moved : s.move .serve = .receive := by simp only [move, held]
  have stepped : s.channel.step .receive = ({ s.channel with queue }, .received (.request q)) := by
    simp only [Channel.step, h.hasEndpoint, if_true, Channel.receive, next]
  constructor
  · simp only [Serving.turn, moved, stepped, held]
  · rw [event, moved, stepped]

theorem serve_rest (h : InStep scope handled l s) (held : s.held = none)
    (next : s.channel.queue = []) :
    s.turn .serve = s ∧ s.event .serve = ⟨.receive, .received .pending⟩ := by
  have moved : s.move .serve = .receive := by simp only [move, held]
  have stepped : s.channel.step .receive = (s.channel, .received .pending) := by
    simp only [Channel.step, h.hasEndpoint, if_true, Channel.receive, next, h.hasClient,
      Bool.true_or]
  constructor
  · simp only [Serving.turn, moved, stepped, held]
    rw [← held]
  · rw [event, moved, stepped]

/-- A turn in which nothing is handled or answered. -/
theorem calm (h : InStep scope handled l s) {t : Turn}
    (turned : s.turn t = { s with channel := (s.turn t).channel })
    (begun : (l.note (s.event t)).begun = handled ++ (s.turn t).channel.queue)
    (accepted : (s.event t).accepted? = none) :
    InStep scope handled (l.note (s.event t)) (s.turn t) := by
  have same : (l.note (s.event t)).accepted = l.accepted := by simp [Ledger.note, accepted]
  have answered : (l.note (s.event t)).isAnswered = l.isAnswered := by
    unfold Ledger.isAnswered
    rw [same]
  have held : (s.turn t).held = s.held := by rw [turned]
  have left : (s.turn t).scope = s.scope := by rw [turned]
  refine ⟨h.ends_turn t, h.agrees_turn t, begun, left.trans h.left, ?_, ?_⟩
  · intro r hr
    rw [same, held] at hr
    exact h.answers r hr
  · intro q hq
    rw [answered, held]
    exact (h.settled q hq).imp_left (List.mem_append_left _)

theorem call_sent (h : InStep scope handled l s) (function : Text) (args : List Text) :
    (s.turn (.call function args)).channel.queue =
        s.channel.queue ++ [⟨function, args, s.channel.lastId + 1⟩] ∧
      s.event (.call function args) =
        ⟨.call function args, .call (s.channel.lastId + 1) .pending⟩ := by
  have called : s.channel.step (.call function args) =
      ({ (s.channel.enter function args).1 with
          queue := s.channel.queue ++ [(s.channel.enter function args).2] },
        .call (s.channel.lastId + 1) .pending) := by
    simp only [Channel.step, h.hasClient, h.agrees.call_eq, h.hasEndpoint, if_true]
    rfl
  constructor
  · show (s.channel.step (.call function args)).1.queue = _
    rw [called]
    rfl
  · rw [event, move, called]

theorem call (h : InStep scope handled l s) (function : Text) (args : List Text) :
    InStep scope handled (l.note (s.event (.call function args)))
      (s.turn (.call function args)) := by
  obtain ⟨queue, told⟩ := h.call_sent function args
  refine h.calm rfl ?_ (by rw [told]; rfl)
  rw [told, Ledger.note_begin, queue, Ledger.begin, h.begun, List.append_assoc]

theorem poll (h : InStep scope handled l s) (id : Nat) :
    InStep scope handled (l.note (s.event (.poll id))) (s.turn (.poll id)) := by
  refine h.calm rfl ?_ rfl
  exact (List.append_nil _).trans (h.begun.trans (congrArg _ (s.channel.poll_queue id).symm))

theorem abandon (h : InStep scope handled l s) (id : Nat) :
    InStep scope handled (l.note (s.event (.abandon id))) (s.turn (.abandon id)) := by
  refine h.calm rfl ?_ rfl
  exact (List.append_nil _).trans (h.begun.trans (congrArg _ (s.channel.abandon_queue id).symm))

/-- Where nobody waits for an answer that is given, its call is answered already or has ended. -/
theorem answer (h : InStep scope handled l s) {r : PageResponse} (held : s.held = some r) :
    InStep scope handled (l.note (s.event .serve)) (s.turn .serve) := by
  obtain ⟨turned, told⟩ := h.serve_held held
  have taken := h.agrees.respond_eq h.hasEndpoint r
  have queue : (s.turn .serve).channel.queue = s.channel.queue := by
    rw [turned, Channel.respond_queue]
  have noted : l.note (s.event .serve) = if r.id ∈ l.unanswered then l.accept r else l := by
    rw [told, taken]
    split
    · exact l.note_accept r
    · exact l.note_quiet rfl rfl rfl
  refine ⟨h.ends_turn .serve, h.agrees_turn .serve, ?_, ?_, ?_, ?_⟩
  · rw [noted, queue]
    split <;> exact h.begun
  · rw [turned]
    exact h.left
  · intro t ht
    rw [noted, turned] at ht
    have known : t ∈ l.accepted ∨ t = r := by
      rcases ht with ht | ht
      · split at ht
        · simpa [Ledger.accept] using ht
        · exact .inl ht
      · cases ht
    rcases known with known | rfl
    · exact h.answers t (.inl known)
    · exact h.answers t (.inr held)
  · intro q hq
    rw [noted]
    rcases h.settled q hq with closed | answered | ⟨t, ht, same⟩
    · left
      split <;> exact closed
    · right; left
      split
      · simp [Ledger.isAnswered_accept, answered]
      · exact answered
    · -- Only the answer that is given can have been held for the request.
      cases held.symm.trans ht
      split
      · exact .inr (.inl (by simp [Ledger.isAnswered_accept, same]))
      · rename_i nobody
        have begun : q ∈ l.begun := h.begun ▸ List.mem_append_left _ hq
        exact (Ledger.closed_or_isAnswered begun (same ▸ nobody)).imp_right .inl

theorem handle (h : InStep scope handled l s) {q : PageRequest} {queue : List PageRequest}
    (held : s.held = none) (next : s.channel.queue = q :: queue) :
    InStep scope (handled ++ [q]) (l.note (s.event .serve)) (s.turn .serve) := by
  obtain ⟨turned, told⟩ := h.serve_next held next
  have noted : l.note (s.event .serve) = l := by
    rw [told]
    exact l.note_quiet rfl rfl rfl
  refine ⟨h.ends_turn .serve, h.agrees_turn .serve, ?_, ?_, ?_, ?_⟩
  · rw [noted, turned, h.begun, next, List.append_assoc, List.singleton_append]
  · rw [turned, PageScope.behind_concat, h.left]
  · intro r hr
    rw [noted, turned] at hr
    rcases hr with hr | hr
    · obtain ⟨p, answers⟩ := h.answers r (.inl hr)
      exact ⟨p, answers.append [q]⟩
    · obtain rfl := Option.some.inj hr
      rw [h.left]
      exact ⟨q, scope.answers_concat handled q⟩
  · intro p hp
    rw [noted, turned]
    rcases List.mem_append.mp hp with hp | hp
    · rcases h.settled p hp with closed | answered | ⟨t, ht, -⟩
      · exact .inl closed
      · exact .inr (.inl answered)
      · cases held.symm.trans ht
    · obtain rfl := List.mem_singleton.mp hp
      exact .inr (.inr ⟨_, rfl, s.scope.handle_id p⟩)

/-- Every turn keeps a served scope in step. -/
theorem turn (h : InStep scope handled l s) (t : Turn) :
    InStep scope (handled ++ (s.event t).received?.toList) (l.note (s.event t)) (s.turn t) := by
  have quiet : (s.event t).received? = none → InStep scope handled (l.note (s.event t)) (s.turn t) →
      InStep scope (handled ++ (s.event t).received?.toList) (l.note (s.event t)) (s.turn t) := by
    intro none next
    rwa [none, Option.toList_none, List.append_nil]
  cases t with
  | call function args => exact quiet rfl (h.call function args)
  | poll id => exact quiet rfl (h.poll id)
  | abandon id => exact quiet rfl (h.abandon id)
  | serve =>
    cases held : s.held with
    | some r =>
      refine quiet ?_ (h.answer held)
      rw [(h.serve_held held).2]
      rfl
    | none =>
      cases next : s.channel.queue with
      | nil =>
        obtain ⟨same, told⟩ := h.serve_rest held next
        refine quiet (by rw [told]; rfl) ?_
        rwa [same, told, l.note_quiet rfl rfl rfl]
      | cons q queue =>
        have told : (s.event .serve).received? = some q := by
          rw [(h.serve_next held next).2]
          rfl
        rw [told]
        exact h.handle held next

theorem result (h : InStep scope handled l s) {t : Turn} {id : Nat}
    {result : Except BridgeError Json} (ended : (s.event t).result? = some (id, result)) :
    ∃ q r, q.id = id ∧ scope.Answers l.begun q r ∧ result = r.outcome q.function := by
  rcases h.agrees.result_or_gone ended with ⟨gone, -⟩ | ⟨q, hq, r, hr, rfl, same, rfl⟩
  · cases gone.symm.trans h.hasEndpoint
  · obtain ⟨p, answers⟩ := h.answers r (.inl hr)
    have answers : scope.Answers l.begun p r := h.begun ▸ answers.append s.channel.queue
    obtain rfl := h.agrees.begun_inj answers.mem hq (answers.id_eq.symm.trans same)
    exact ⟨p, r, rfl, answers, rfl⟩

end InStep

/-- How many turns the scope needs for what has been sent. -/
def toDo (s : Serving φ) : Nat :=
  2 * s.channel.queue.length + s.held.toList.length

namespace InStep

variable {scope : PageScope φ} {handled : List PageRequest} {l : Ledger} {s : Serving φ}

theorem toDo_serve (h : InStep scope handled l s) : (s.turn .serve).toDo = s.toDo - 1 := by
  unfold toDo
  cases held : s.held with
  | some r =>
    rw [(h.serve_held held).1, Channel.respond_queue]
    simp
  | none =>
    cases next : s.channel.queue with
    | nil =>
      rw [(h.serve_rest held next).1, held, next]
      simp
    | cons q queue =>
      rw [(h.serve_next held next).1]
      simp only [Option.toList_some, List.length_cons, Option.toList_none,
        List.length_nil]
      omega

/-- Once all has been served, an unfinished call ends when it is looked at. -/
theorem ends_of_served (h : InStep scope handled l s) (served : s.toDo = 0) {q : PageRequest}
    (unfinished : q ∈ l.unfinished) :
    ∃ result, (s.event (.poll q.id)).result? = some (q.id, result) := by
  obtain ⟨begun, unclosed⟩ := Ledger.mem_unfinished.mp unfinished
  have queue : s.channel.queue = [] := List.length_eq_zero_iff.mp (by unfold toDo at served; omega)
  have held : s.held.toList = [] := List.length_eq_zero_iff.mp (by unfold toDo at served; omega)
  rw [h.begun, queue, List.append_nil] at begun
  rcases h.settled q begun with closed | answered | ⟨r, hr, -⟩
  · exact absurd closed unclosed
  · obtain ⟨r, hr, same⟩ := Ledger.isAnswered_iff.mp answered
    refine ⟨r.outcome q.function, ?_⟩
    simp only [event, move, Channel.step, h.agrees.poll_answered unfinished hr same,
      Channel.Event.result?]
  · rw [hr] at held
    cases held

end InStep

end Serving

end Declutter
