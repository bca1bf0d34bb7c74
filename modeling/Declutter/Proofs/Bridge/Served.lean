import Declutter.Proofs.Bridge.Serving

namespace Declutter

namespace Serving

variable {φ : Type} [Callable φ]

/-- What has been sent and answered, and which calls have ended, in turns from the start. -/
def ledger (scope : PageScope φ) (ts : List Turn) : Ledger :=
  .ofRecord ((start scope).record ts)

/-- The requests that the scope has handled in turns from the start. -/
def handled (scope : PageScope φ) (ts : List Turn) : List PageRequest :=
  ((start scope).record ts).filterMap Channel.Event.received?

theorem inStep_after (scope : PageScope φ) (ts : List Turn) :
    InStep scope (handled scope ts) (ledger scope ts) ((start scope).after ts) := by
  induction ts using List.reverseRecOn with
  | nil => exact inStep_start scope
  | append_singleton ts t ih =>
    have next := ih.turn t
    have told : handled scope (ts ++ [t]) =
        handled scope ts ++ (((start scope).after ts).event t).received?.toList := by
      rw [handled, record_concat, List.filterMap_append]
      cases h : (((start scope).after ts).event t).received? <;> simp [h, handled]
    rw [told, ledger, record_concat, Ledger.ofRecord_concat, after_append]
    exact next

theorem ledger_concat (scope : PageScope φ) (ts : List Turn) (t : Turn) :
    ledger scope (ts ++ [t]) = (ledger scope ts).note (((start scope).after ts).event t) := by
  rw [ledger, record_concat, Ledger.ofRecord_concat]
  rfl

theorem ledger_quiet {scope : PageScope φ} {ts : List Turn} {t : Turn}
    (begun : (((start scope).after ts).event t).begun? = none)
    (closed : (((start scope).after ts).event t).closed? = none) :
    (ledger scope (ts ++ [t])).begun = (ledger scope ts).begun ∧
      (ledger scope (ts ++ [t])).unfinished = (ledger scope ts).unfinished := by
  rw [ledger_concat]
  simp [Ledger.note, Ledger.unfinished, begun, closed]

theorem ledger_serve (scope : PageScope φ) (ts : List Turn) (n : Nat) :
    (ledger scope (ts ++ .replicate n .serve)).begun = (ledger scope ts).begun ∧
      (ledger scope (ts ++ .replicate n .serve)).unfinished = (ledger scope ts).unfinished := by
  induction n with
  | zero => simp
  | succ n ih =>
    have quiet := event_serve ((start scope).after (ts ++ .replicate n .serve))
    obtain ⟨begun, unfinished⟩ := ledger_quiet quiet.1 quiet.2
    rw [List.replicate_succ', ← List.append_assoc, begun, unfinished]
    exact ih

theorem toDo_after (scope : PageScope φ) (ts : List Turn) (n : Nat) :
    ((start scope).after (ts ++ .replicate n .serve)).toDo =
      ((start scope).after ts).toDo - n := by
  induction n with
  | zero => simp
  | succ n ih =>
    rw [List.replicate_succ', ← List.append_assoc, after_concat,
      (inStep_after scope _).toDo_serve, ih, Nat.sub_sub]

theorem result_of_mem {scope : PageScope φ} {ts : List Turn} {e : Channel.Event}
    (he : e ∈ (start scope).record ts) {id : Nat} {result : Except BridgeError Json}
    (ended : e.result? = some (id, result)) :
    ∃ q r, q.id = id ∧ scope.Answers (ledger scope ts).begun q r ∧
      result = r.outcome q.function := by
  induction ts using List.reverseRecOn with
  | nil => cases he
  | append_singleton ts t ih =>
    have here : ∃ q r, q.id = id ∧ scope.Answers (ledger scope ts).begun q r ∧
        result = r.outcome q.function := by
      rw [record_concat] at he
      -- What is begun later stands behind, so it does not matter to a call that ended before.
      rcases List.mem_append.mp he with he | he
      · exact ih he
      · obtain rfl := List.mem_singleton.mp he
        exact (inStep_after scope ts).result ended
    obtain ⟨q, r, same, answers, outcome⟩ := here
    rw [ledger_concat]
    exact ⟨q, r, same, answers.append _, outcome⟩

/-- What a turn calls. -/
def Turn.sent? : Turn → Option (Text × List Text)
  | .call function args => some (function, args)
  | _ => none

theorem begun_map (scope : PageScope φ) (ts : List Turn) :
    (ledger scope ts).begun.map (fun q => (q.function, q.args)) = ts.filterMap Turn.sent? := by
  induction ts using List.reverseRecOn with
  | nil => rfl
  | append_singleton ts t ih =>
    have here : (((start scope).after ts).event t).begun?.toList.map
        (fun q => (q.function, q.args)) = [t].filterMap Turn.sent? := by
      cases t with
      | call function args =>
        rw [((inStep_after scope ts).call_sent function args).2]
        rfl
      | poll id => rfl
      | abandon id => rfl
      | serve =>
        rw [(event_serve _).1]
        rfl
    rw [ledger_concat, List.filterMap_append, ← ih, ← here]
    exact List.map_append

theorem moves_calls (s : Serving φ) (ts : List Turn) :
    (s.moves ts).filterMap Channel.Step.call? = ts.filterMap Turn.sent? := by
  induction ts generalizing s with
  | nil => rfl
  | cons t rest ih =>
    have here : (s.move t).call? = t.sent? := by
      cases t with
      | serve =>
        unfold move
        cases s.held <;> rfl
      | _ => rfl
    rw [moves, List.filterMap_cons, List.filterMap_cons, here, ih]

/-- With fewer than `2 ^ 64` calls, no request and no answer of a served scope has a number of more
than 64 bits. -/
theorem ids_fit {scope : PageScope φ} {ts : List Turn}
    (few : (ts.filterMap Turn.sent?).length ≤ Text.maxWord64) :
    ((start scope).after ts).channel.lastId ≤ Text.maxWord64 ∧
      (∀ q ∈ (ledger scope ts).begun, q.id ≤ Text.maxWord64) ∧
      ∀ r ∈ (ledger scope ts).accepted, r.id ≤ Text.maxWord64 := by
  rw [← (start scope).moves_calls ts] at few
  obtain ⟨last, begun, accepted, -⟩ := Channel.ids_fit few
  exact ⟨channel_after (start scope) ts ▸ last, begun, accepted⟩

/-- Serving a scope is to handle what is sent, each request once and in the order in which the calls
begin, be they given up or not. Each call that ends does so with the answer to its own request, and
once all has been served any other ends when it is looked at. -/
structure Faithful (scope : PageScope φ) (ts : List Turn) : Prop where
  sent : (ledger scope ts).begun.map (fun q => (q.function, q.args)) = ts.filterMap Turn.sent?
  numbered : (ledger scope ts).begun.map (·.id) = List.range' 1 (ledger scope ts).begun.length
  inOrder : (ledger scope ts).begun = handled scope ts ++ ((start scope).after ts).channel.queue
  left : ((start scope).after ts).scope = scope.behind (handled scope ts)
  results : ∀ e ∈ (start scope).record ts, ∀ id result, e.result? = some (id, result) →
    ∃ q r, q.id = id ∧ scope.Answers (ledger scope ts).begun q r ∧ result = r.outcome q.function
  served : ∀ n, 2 * ((start scope).after ts).channel.queue.length + 1 ≤ n →
    handled scope (ts ++ .replicate n .serve) = (ledger scope ts).begun ∧
    ∀ q ∈ (ledger scope ts).unfinished, ∃ r, scope.Answers (ledger scope ts).begun q r ∧
      (((start scope).after (ts ++ .replicate n .serve)).event (.poll q.id)).result? =
        some (q.id, r.outcome q.function)

theorem exists_answer_of_ended {scope : PageScope φ} {ts : List Turn} {t : Turn} {q : PageRequest}
    (begun : q ∈ (ledger scope ts).begun) {result : Except BridgeError Json}
    (ended : (((start scope).after ts).event t).result? = some (q.id, result)) :
    ∃ r, scope.Answers (ledger scope ts).begun q r ∧ result = r.outcome q.function := by
  have inStep := inStep_after scope ts
  obtain ⟨p, r, same, answers, outcome⟩ := inStep.result ended
  obtain rfl := inStep.agrees.begun_inj answers.mem begun same
  exact ⟨r, answers, outcome⟩

theorem exists_answer_of_served {scope : PageScope φ} {ts : List Turn}
    (served : ((start scope).after ts).toDo = 0) {q : PageRequest}
    (unfinished : q ∈ (ledger scope ts).unfinished) :
    ∃ r, scope.Answers (ledger scope ts).begun q r ∧
      (((start scope).after ts).event (.poll q.id)).result? =
        some (q.id, r.outcome q.function) := by
  obtain ⟨result, ended⟩ := (inStep_after scope ts).ends_of_served served unfinished
  obtain ⟨r, answers, rfl⟩ :=
    exists_answer_of_ended (Ledger.mem_unfinished.mp unfinished).1 ended
  exact ⟨r, answers, ended⟩

theorem faithful (scope : PageScope φ) (ts : List Turn) : Faithful scope ts := by
  have inStep := inStep_after scope ts
  have numbered := inStep.agrees.numbered
  have count : (ledger scope ts).begun.length = ((start scope).after ts).channel.lastId := by
    simpa using congrArg List.length numbered
  refine ⟨begun_map scope ts, count ▸ numbered, inStep.begun, inStep.left,
    fun e he id result ended => result_of_mem he ended, fun n enough => ?_⟩
  have served : ((start scope).after (ts ++ .replicate n .serve)).toDo = 0 := by
    have held : ((start scope).after ts).held.toList.length ≤ 1 := by
      cases ((start scope).after ts).held <;> simp
    rw [toDo_after, toDo]
    omega
  constructor
  · have queue : ((start scope).after (ts ++ .replicate n .serve)).channel.queue = [] :=
      List.length_eq_zero_iff.mp (by unfold toDo at served; omega)
    rw [← (ledger_serve scope ts n).1, (inStep_after scope _).begun, queue, List.append_nil]
  · intro q hq
    rw [← (ledger_serve scope ts n).1]
    exact exists_answer_of_served served ((ledger_serve scope ts n).2 ▸ hq)

end Serving

end Declutter
