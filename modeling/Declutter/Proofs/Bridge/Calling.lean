import Declutter.Proofs.Bridge.Served

namespace Declutter

namespace Serving

variable {φ : Type}

/-- What happens while a call is awaited: the scope has its turn, or the call is looked at. -/
inductive Look
  | serve
  | poll
deriving DecidableEq, Repr

theorem result?_poll {s : Serving φ} {id i : Nat} {result : Except BridgeError Json}
    (ended : (s.event (.poll id)).result? = some (i, result)) : i = id := by
  cases looked : (s.channel.poll id).2 <;>
    simp [event, move, Channel.step, looked, Channel.Event.result?] at ended
  exact ended.1.symm

variable [Callable φ]

/-- Awaits the answer to a call. When nothing else happens, the scope serves all that has been sent,
and the call is looked at. -/
def await (id : Nat) : List Look → Serving φ → Serving φ × Except BridgeError Json
  | [], s =>
    let s := s.after (.replicate s.toDo .serve)
    (s.turn (.poll id), (s.event (.poll id)).result?.elim (.error .disconnected) Prod.snd)
  | .serve :: rest, s => await id rest (s.turn .serve)
  | .poll :: rest, s =>
    match (s.event (.poll id)).result? with
    | some (_, result) => (s.turn (.poll id), result)
    | none => await id rest (s.turn (.poll id))

/-- An awaited call gets the answer to its request, in turns in which no other is begun. -/
def Awaits (scope : PageScope φ) (looks : List Look) (ts : List Turn) (q : PageRequest) : Prop :=
  ∃ us r, scope.Answers (ledger scope ts).begun q r ∧
    (ledger scope (ts ++ us)).begun = (ledger scope ts).begun ∧
    await q.id looks ((start scope).after ts) = ((start scope).after (ts ++ us), r.outcome q.function)

section Awaiting

variable {scope : PageScope φ} {looks : List Look} {look : Look} {ts : List Turn} {t : Turn}
  {q : PageRequest}

theorem Awaits.onward (later : Awaits scope looks (ts ++ [t]) q)
    (begun : (ledger scope (ts ++ [t])).begun = (ledger scope ts).begun)
    (next : await q.id (look :: looks) ((start scope).after ts) =
      await q.id looks (((start scope).after ts).turn t)) : Awaits scope (look :: looks) ts q := by
  obtain ⟨us, r, answers, same, awaited⟩ := later
  rw [begun] at answers same
  rw [after_concat] at awaited
  refine ⟨t :: us, r, answers, ?_, ?_⟩
  · rw [List.append_cons, same]
  · rw [List.append_cons, next, awaited]

theorem awaits_of_served (unfinished : q ∈ (ledger scope ts).unfinished) :
    Awaits scope [] ts q := by
  obtain ⟨same, still⟩ := ledger_serve scope ts ((start scope).after ts).toDo
  have served : ((start scope).after
      (ts ++ .replicate ((start scope).after ts).toDo .serve)).toDo = 0 := by
    rw [toDo_after, Nat.sub_self]
  rw [← still] at unfinished
  obtain ⟨r, answers, ended⟩ := exists_answer_of_served served unfinished
  rw [same] at answers
  refine ⟨.replicate ((start scope).after ts).toDo .serve ++ [.poll q.id], r, answers, ?_, ?_⟩
  · rw [← List.append_assoc, ledger_concat]
    exact (List.append_nil _).trans same
  · rw [after_append] at ended
    simp only [await, ended, Option.elim_some]
    rw [← List.append_assoc, after_concat, after_append]

theorem awaits (looks : List Look) (unfinished : q ∈ (ledger scope ts).unfinished) :
    Awaits scope looks ts q := by
  induction looks generalizing ts with
  | nil => exact awaits_of_served unfinished
  | cons look rest ih =>
    cases look with
    | serve =>
      have quiet := event_serve ((start scope).after ts)
      obtain ⟨begun, still⟩ := ledger_quiet quiet.1 quiet.2
      exact (ih (still ▸ unfinished)).onward begun rfl
    | poll =>
      cases ended : (((start scope).after ts).event (.poll q.id)).result? with
      | some looked =>
        obtain ⟨id, result⟩ := looked
        obtain rfl := result?_poll ended
        obtain ⟨r, answers, rfl⟩ :=
          exists_answer_of_ended (Ledger.mem_unfinished.mp unfinished).1 ended
        refine ⟨[.poll q.id], r, answers, ?_, ?_⟩
        · rw [ledger_concat]
          exact List.append_nil _
        · simp only [await, ended, after_concat]
      | none =>
        have closed : (((start scope).after ts).event (.poll q.id)).closed? = none := by
          rw [Channel.Event.closed?, ended]
          rfl
        obtain ⟨begun, still⟩ := ledger_quiet (t := .poll q.id) rfl closed
        exact (ih (still ▸ unfinished)).onward begun (by rw [await, ended])

end Awaiting

/-- When a call is made and awaited: how often the scope has its turn before, and what happens
meanwhile. -/
structure Timing where
  before : Nat
  meanwhile : List Look

/-- Calls a page function and awaits the answer. -/
def callIn (t : Timing) (s : Serving φ) (function : Text) (args : List Text) :
    Serving φ × Except BridgeError Json :=
  let s := s.after (.replicate t.before .serve)
  await (s.channel.lastId + 1) t.meanwhile (s.turn (.call function args))

/-- A bridge over a served channel, on which each call has its own time. -/
def bridge (timing : Nat → Timing) : Bridge (Serving φ) where
  call s := callIn (timing s.channel.lastId) s

end Serving

namespace PageScope

variable {φ : Type} [Callable φ]

/-- Handles calls directly. -/
def bridge : Bridge (PageScope φ) where
  call s function args :=
    let (s, r) := s.handle ⟨function, args, 0⟩
    (s, r.outcome function)

theorem invoke_number (s : PageScope φ) (i j : Nat) (path : Text) (args : List Text)
    (function : Text) :
    (s.invoke i path args).1 = (s.invoke j path args).1 ∧
      (s.invoke i path args).2.outcome function = (s.invoke j path args).2.outcome function := by
  unfold invoke
  split
  next => exact ⟨rfl, rfl⟩
  next f _ => rcases Callable.apply f args with ⟨g, _ | _⟩ <;> exact ⟨rfl, rfl⟩

/-- The number of a request makes no difference to what is done and to what its answer means. -/
theorem call_bridge (s : PageScope φ) (q : PageRequest) :
    bridge.call s q.function q.args = ((s.handle q).1, (s.handle q).2.outcome q.function) := by
  obtain ⟨function, args, id⟩ := q
  unfold bridge handle
  dsimp only
  split
  · split <;> rfl
  · split
    · split
      next path args =>
        obtain ⟨left, outcome⟩ := s.invoke_number 0 id path args function
        rw [left, outcome]
      next => rfl
    · rfl

end PageScope

namespace Bridge

variable {α β : Type}

/-- Calls over two bridges in related states give the same and leave the states related. -/
def Simulates (a : Bridge α) (b : Bridge β) (related : α → β → Prop) : Prop :=
  ∀ s t, related s t → ∀ function args,
    related (a.call s function args).1 (b.call t function args).1 ∧
      (a.call s function args).2 = (b.call t function args).2

end Bridge

namespace Serving

variable {φ : Type} [Callable φ]

/-- A scope that is served from the start, beside one that has handled all that has been sent. -/
def Beside (scope : PageScope φ) (s : Serving φ) (t : PageScope φ) : Prop :=
  ∃ ts, s = (start scope).after ts ∧ t = scope.behind (ledger scope ts).begun

theorem begun_call (scope : PageScope φ) (ts : List Turn) (function : Text) (args : List Text) :
    ∃ q, q.function = function ∧ q.args = args ∧
      q.id = ((start scope).after ts).channel.lastId + 1 ∧
      (ledger scope (ts ++ [.call function args])).begun = (ledger scope ts).begun ++ [q] ∧
      q ∈ (ledger scope (ts ++ [.call function args])).unfinished := by
  have inStep := inStep_after scope ts
  refine ⟨⟨function, args, ((start scope).after ts).channel.lastId + 1⟩, rfl, rfl, rfl, ?_⟩
  rw [ledger_concat, (inStep.call_sent function args).2, Ledger.note_begin]
  refine ⟨rfl, ?_⟩
  rw [Ledger.unfinished_begin inStep.agrees.fresh_unclosed]
  exact List.mem_concat_self

/-- A call that is awaited is answered from all that has been sent before it. -/
theorem callIn_beside (t : Timing) {scope : PageScope φ} {s : Serving φ} {d : PageScope φ}
    (beside : Beside scope s d) (function : Text) (args : List Text) :
    Beside scope (callIn t s function args).1 (PageScope.bridge.call d function args).1 ∧
      (callIn t s function args).2 = (PageScope.bridge.call d function args).2 := by
  obtain ⟨ts, rfl, rfl⟩ := beside
  -- No other call is begun until this one ends, so its request is the last among those sent.
  have before := (ledger_serve scope ts t.before).1
  rw [callIn, ← after_append]
  generalize ts ++ List.replicate t.before .serve = ready at before ⊢
  obtain ⟨q, rfl, rfl, number, sent, unfinished⟩ := begun_call scope ready function args
  obtain ⟨us, r, answers, same, awaited⟩ := awaits t.meanwhile unfinished
  have nodup := (inStep_after scope (ready ++ [.call q.function q.args])).agrees.begun_nodup
  rw [sent, before] at answers nodup same
  obtain rfl := answers.eq_of_concat nodup
  rw [number, after_concat] at awaited
  rw [PageScope.call_bridge]
  dsimp only
  rw [awaited]
  exact ⟨⟨_, rfl, by rw [same, PageScope.behind_concat]⟩, rfl⟩

/-- However calls are timed, a served scope does as one that is called directly. -/
theorem simulates (scope : PageScope φ) (timing : Nat → Timing) :
    (bridge timing).Simulates PageScope.bridge (Beside scope) :=
  fun _ _ beside => callIn_beside _ beside

end Serving

namespace Service

variable {φ : Type} [Callable φ]

theorem simulates : (bridge (φ := φ)).Simulates PageScope.bridge
    fun s t => ∃ n, s = ⟨.idle n, t⟩ := by
  rintro _ scope ⟨n, rfl⟩ function args
  have called := call_idle (r := ⟨function, args, n + 1⟩) rfl scope
  have direct := scope.call_bridge ⟨function, args, n + 1⟩
  dsimp only at called direct
  rw [direct]
  exact ⟨⟨n + 1, congrArg Prod.fst called⟩, congrArg Prod.snd called⟩

end Service

end Declutter
