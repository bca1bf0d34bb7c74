import Declutter.Proofs.Bridge.Ledger

namespace Declutter

namespace Channel

/-- A call ends without an answer if there is no page, or with the answer that has been accepted for
it. -/
theorem Agrees.result_or_gone {l : Ledger} {c : Channel} (h : Agrees l c) {s : Step} {id : Nat}
    {result : Except BridgeError Json}
    (ended : Event.result? ⟨s, (c.step s).2⟩ = some (id, result)) :
    (c.hasEndpoint = false ∧ result = .error .disconnected) ∨ ∃ q ∈ l.begun, ∃ r ∈ l.accepted,
      q.id = id ∧ r.id = id ∧ result = r.outcome q.function := by
  cases s with
  | call function args =>
    simp only [Channel.step, h.call_eq] at ended
    by_cases client : c.hasClient
    · by_cases endpoint : c.hasEndpoint
      · simp [client, endpoint, Event.result?] at ended
      · simp only [client, endpoint, if_true, Bool.false_eq_true, if_false, Event.result?,
          Option.some.injEq, Prod.mk.injEq] at ended
        exact .inl ⟨by simpa using endpoint, ended.2.symm⟩
    · simp [client, Event.result?] at ended
  | poll i =>
    simp only [Channel.step] at ended
    by_cases called : ∃ q ∈ l.unfinished, q.id = i
    · obtain ⟨q, hq, rfl⟩ := called
      cases answered : l.isAnswered q.id with
      | true =>
        obtain ⟨r, hr, same⟩ := Ledger.isAnswered_iff.mp answered
        simp only [h.poll_answered hq hr same, Event.result?, Option.some.injEq,
          Prod.mk.injEq] at ended
        obtain ⟨rfl, rfl⟩ := ended
        exact .inr ⟨q, (Ledger.mem_unfinished.mp hq).1, r, hr, rfl, same, rfl⟩
      | false =>
        rw [h.poll_unanswered hq answered] at ended
        by_cases endpoint : c.hasEndpoint
        · simp [endpoint, Event.result?] at ended
        · simp only [endpoint, Bool.false_eq_true, if_false, Event.result?, Option.some.injEq,
            Prod.mk.injEq] at ended
          exact .inl ⟨by simpa using endpoint, ended.2.symm⟩
    · rw [h.poll_missing fun q hq he => called ⟨q, hq, he⟩] at ended
      simp [Event.result?] at ended
  | abandon i => simp [Event.result?] at ended
  | receive => simp [Event.result?] at ended
  | respond r => simp [Event.result?] at ended
  | dropEndpoint => simp [Event.result?] at ended
  | dropClient => simp [Event.result?] at ended

theorem Agrees.result {l : Ledger} {c : Channel} (h : Agrees l c) {s : Step} {id : Nat}
    {result : Except BridgeError Json}
    (ended : Event.result? ⟨s, (c.step s).2⟩ = some (id, result)) :
    result = .error .disconnected ∨ ∃ q ∈ l.begun, ∃ r ∈ l.accepted,
      q.id = id ∧ r.id = id ∧ result = r.outcome q.function :=
  (h.result_or_gone ended).imp_left And.right

/-- Channels that are in the same state for one of their calls. -/
structure Alike (id : Nat) (c d : Channel) : Prop where
  lastId : c.lastId = d.lastId
  found : c.calls.find? (·.id == id) = d.calls.find? (·.id == id)
  answer : c.answers.find? (·.id == id) = d.answers.find? (·.id == id)
  waiting : c.waiting.contains id = d.waiting.contains id
  hasClient : c.hasClient = d.hasClient
  hasEndpoint : c.hasEndpoint = d.hasEndpoint

namespace Alike

variable {id : Nat} {b c d : Channel}

theorem refl (id : Nat) (c : Channel) : Alike id c c := ⟨rfl, rfl, rfl, rfl, rfl, rfl⟩

theorem symm (h : Alike id c d) : Alike id d c :=
  ⟨h.lastId.symm, h.found.symm, h.answer.symm, h.waiting.symm, h.hasClient.symm,
    h.hasEndpoint.symm⟩

theorem trans (h : Alike id b c) (k : Alike id c d) : Alike id b d :=
  ⟨h.lastId.trans k.lastId, h.found.trans k.found, h.answer.trans k.answer,
    h.waiting.trans k.waiting, h.hasClient.trans k.hasClient, h.hasEndpoint.trans k.hasEndpoint⟩

/-- Channels that are next to alike channels are alike. -/
theorem of_sides {b' : Channel} (left : Alike id b c) (h : Alike id c d) (right : Alike id b' d) :
    Alike id b b' :=
  (left.trans h).trans right.symm

theorem find?_filter_ne {α : Type} {key : α → Nat} {i : Nat} (ne : i ≠ id) (xs : List α) :
    (xs.filter (key · != i)).find? (key · == id) = xs.find? (key · == id) := by
  rw [List.find?_filter]
  congr 1
  funext x
  by_cases he : key x = id
  · simp [he, Ne.symm ne]
  · simp [he]

theorem find?_filter_self {α : Type} {key : α → Nat} (xs : List α) :
    (xs.filter (key · != id)).find? (key · == id) = none := by
  rw [List.find?_filter, List.find?_eq_none]
  intro x _
  simp

theorem close_other {i : Nat} (ne : i ≠ id) (c : Channel) : Alike id (c.close i) c where
  lastId := rfl
  found := find?_filter_ne ne c.calls
  answer := find?_filter_ne ne c.answers
  waiting := by
    simp [close, Ne.symm ne]
  hasClient := rfl
  hasEndpoint := rfl

theorem close (h : Alike id c d) : Alike id (c.close id) (d.close id) where
  lastId := h.lastId
  found := (find?_filter_self c.calls).trans (find?_filter_self d.calls).symm
  answer := (find?_filter_self c.answers).trans (find?_filter_self d.answers).symm
  waiting := by simp [Channel.close]
  hasClient := h.hasClient
  hasEndpoint := h.hasEndpoint

theorem poll_other {i : Nat} (ne : i ≠ id) (c : Channel) : Alike id (c.poll i).1 c := by
  unfold poll
  split
  · exact refl id c
  · split
    · exact close_other ne c
    · split
      · exact refl id c
      · exact close_other ne c

theorem poll (h : Alike id c d) :
    (c.poll id).2 = (d.poll id).2 ∧ Alike id (c.poll id).1 (d.poll id).1 := by
  simp only [Channel.poll, h.found, h.answer, h.waiting]
  split
  · exact ⟨rfl, h⟩
  · split
    · exact ⟨rfl, h.close⟩
    · split
      · exact ⟨rfl, h⟩
      · exact ⟨rfl, h.close⟩

theorem enter (h : Alike id c d) (function : Text) (args : List Text) :
    Alike id (c.enter function args).1 (d.enter function args).1 where
  lastId := congrArg (· + 1) h.lastId
  found := by simp [Channel.enter, List.find?_append, h.found, h.lastId]
  answer := h.answer
  waiting := by
    have waiting := h.waiting
    simp only [List.contains_eq_mem] at waiting
    simp [Channel.enter, h.lastId, waiting]
  hasClient := h.hasClient
  hasEndpoint := h.hasEndpoint

theorem call (h : Alike id c d) (function : Text) (args : List Text) :
    Alike id (c.call function args).1 (d.call function args).1 ∧
      (c.lastId + 1 = id → (c.call function args).2 = (d.call function args).2) := by
  have entered := h.enter function args
  have queued : Alike id
      { (c.enter function args).1 with queue := c.queue ++ [(c.enter function args).2] }
      { (d.enter function args).1 with queue := d.queue ++ [(d.enter function args).2] } :=
    ⟨entered.lastId, entered.found, entered.answer, entered.waiting, entered.hasClient,
      entered.hasEndpoint⟩
  simp only [Channel.call, ← h.hasEndpoint]
  have number : (d.enter function args).2.id = (c.enter function args).2.id :=
    congrArg (· + 1) h.lastId.symm
  rw [number]
  by_cases same : (c.enter function args).2.id = id
  · rw [same]
    split
    · exact ⟨queued.poll.2, fun _ => queued.poll.1⟩
    · exact ⟨entered.close, fun _ => rfl⟩
  · split
    · exact ⟨of_sides (poll_other same _) queued (poll_other same _), fun he => absurd he same⟩
    · exact ⟨of_sides (close_other same _) entered (close_other same _), fun he => absurd he same⟩

theorem respond_other {r : PageResponse} (ne : r.id ≠ id) (c : Channel) :
    Alike id (c.respond r).1 c := by
  have taken : (c.waiting.filter (· != r.id)).contains id = c.waiting.contains id := by
    simp [Ne.symm ne]
  unfold respond
  split
  · split
    · exact ⟨rfl, rfl, by simp [List.find?_append, ne], taken, rfl, rfl⟩
    · exact ⟨rfl, rfl, rfl, taken, rfl, rfl⟩
  · exact refl id c

theorem respond (h : Alike id c d) {r : PageResponse} (same : r.id = id) :
    (c.respond r).2 = (d.respond r).2 ∧ Alike id (c.respond r).1 (d.respond r).1 := by
  have called : c.calls.any (·.id == id) = d.calls.any (·.id == id) := by
    rw [← List.isSome_find?, ← List.isSome_find?, h.found]
  simp only [Channel.respond, same, h.waiting, called]
  split
  · split
    · refine ⟨rfl, h.lastId, h.found, ?_, by simp, h.hasClient, h.hasEndpoint⟩
      simp [List.find?_append, h.answer]
    · exact ⟨rfl, h.lastId, h.found, h.answer, by simp, h.hasClient, h.hasEndpoint⟩
  · exact ⟨rfl, h⟩

theorem receive (id : Nat) (c : Channel) : Alike id c.receive.1 c := by
  unfold Channel.receive
  split
  · exact ⟨rfl, rfl, rfl, rfl, rfl, rfl⟩
  · exact refl id c

end Alike

/-- Whether a step is anything but a response to another call. -/
def Step.spares (id : Nat) : Step → Bool
  | .respond r => r.id == id
  | _ => true

/-- Whether an event is about a call: it begins, polls, answers or gives up the call. -/
def Event.concerns (id : Nat) : Event → Bool
  | ⟨.call _ _, .call i _⟩ => i == id
  | ⟨.poll i, _⟩ => i == id
  | ⟨.abandon i, _⟩ => i == id
  | ⟨.respond r, _⟩ => r.id == id
  | _ => false

/-- What a step does to a call depends on the state of that call alone. -/
theorem Alike.step {id : Nat} {c d : Channel} (h : Alike id c d) (s : Step) :
    Alike id (c.step s).1 (d.step s).1 ∧
      (Event.concerns id ⟨s, (c.step s).2⟩ = Event.concerns id ⟨s, (d.step s).2⟩) ∧
      (Event.concerns id ⟨s, (c.step s).2⟩ = true → (c.step s).2 = (d.step s).2) := by
  cases s with
  | call function args =>
    obtain ⟨alike, same⟩ := h.call function args
    simp only [Channel.step, h.hasClient]
    by_cases client : d.hasClient
    · simp only [client, if_true, Event.concerns, call_lastId, h.lastId, true_and]
      refine ⟨alike, fun concerned => ?_⟩
      rw [same (by simpa [h.lastId] using concerned)]
    · simpa [client] using h
  | poll i =>
    simp only [Channel.step, Event.concerns, true_and]
    by_cases same : i = id
    · subst same
      exact ⟨h.poll.2, fun _ => congrArg _ h.poll.1⟩
    · refine ⟨of_sides (poll_other same c) h (poll_other same d), fun concerned => ?_⟩
      exact absurd (by simpa using concerned) same
  | abandon i =>
    simp only [Channel.step, Event.concerns, true_and]
    by_cases same : i = id
    · subst same
      have called : c.calls.any (·.id == i) = d.calls.any (·.id == i) := by
        rw [← List.isSome_find?, ← List.isSome_find?, h.found]
      simp only [abandon, called]
      split
      · exact ⟨h.close, fun _ => rfl⟩
      · exact ⟨h, fun _ => rfl⟩
    · refine ⟨?_, fun concerned => absurd (by simpa using concerned) same⟩
      have left : ∀ b : Channel, Alike id (b.abandon i).1 b := by
        intro b
        unfold abandon
        split
        · exact close_other same b
        · exact refl id b
      exact of_sides (left c) h (left d)
  | receive =>
    refine ⟨?_, by simp [Event.concerns], by simp [Event.concerns]⟩
    simp only [Channel.step, h.hasEndpoint]
    split
    · exact of_sides (receive id c) h (receive id d)
    · exact h
  | respond r =>
    simp only [Channel.step, h.hasEndpoint]
    by_cases endpoint : d.hasEndpoint
    · simp only [endpoint, if_true, Event.concerns, true_and]
      by_cases same : r.id = id
      · exact ⟨(h.respond same).2, fun _ => congrArg _ (h.respond same).1⟩
      · refine ⟨of_sides (respond_other same c) h (respond_other same d), ?_⟩
        exact fun concerned => absurd (by simpa using concerned) same
    · simpa [endpoint] using h
  | dropEndpoint =>
    exact ⟨⟨h.lastId, h.found, h.answer, rfl, h.hasClient, rfl⟩, rfl, fun _ => rfl⟩
  | dropClient =>
    exact ⟨⟨h.lastId, h.found, h.answer, h.waiting, rfl, h.hasEndpoint⟩, rfl, fun _ => rfl⟩

/-- A response to another call leaves the state of a call as it is. -/
theorem Alike.step_of_not_spares {id : Nat} {s : Step} (foreign : s.spares id = false)
    (c : Channel) :
    Alike id (c.step s).1 c ∧ Event.concerns id ⟨s, (c.step s).2⟩ = false := by
  cases s with
  | respond r =>
    have ne : r.id ≠ id := by simpa [Step.spares] using foreign
    simp only [Channel.step]
    split
    · exact ⟨respond_other ne c, foreign⟩
    · exact ⟨refl id c, foreign⟩
  | _ => cases foreign

/-- All that happens to a call would happen as well if the responses to other calls were left
out. -/
theorem Alike.record {id : Nat} {c d : Channel} (h : Alike id c d) (steps : List Step) :
    (c.record steps).filter (Event.concerns id) =
      (d.record (steps.filter (Step.spares id))).filter (Event.concerns id) := by
  induction steps generalizing c d with
  | nil => rfl
  | cons s rest ih =>
    cases spared : s.spares id with
    | true =>
      obtain ⟨alike, concerned, same⟩ := h.step s
      rw [List.filter_cons_of_pos spared]
      simp only [Channel.record, List.filter_cons, concerned, ih alike]
      split
      · rename_i he
        rw [same (concerned.trans he)]
      · rfl
    | false =>
      obtain ⟨alike, unconcerned⟩ := step_of_not_spares spared c
      rw [List.filter_cons_of_neg (by simp [spared])]
      simp only [Channel.record, List.filter_cons, unconcerned, Bool.false_eq_true, if_false]
      exact ih (alike.trans h)

/-- Whatever is done with a fresh channel, calls are numbered from one in the order in which they
begin, and at most one response is accepted for each. A call that ends with an answer has got it
from the one response that was accepted for its number, and other responses do not matter to it.
Where the numbers fit 64 bits is said by `ids_fit`. -/
theorem calls_correlated (steps : List Step) :
    (fresh.ledger steps).begun.map (·.id) = List.range' 1 (fresh.ledger steps).begun.length ∧
    ((fresh.ledger steps).begun.map (·.id)).Pairwise (· < ·) ∧
    ((fresh.ledger steps).accepted.map (·.id)).Nodup ∧
    (∀ before e later, fresh.record steps = before ++ e :: later →
      ∀ id result, e.result? = some (id, result) → result ≠ .error .disconnected →
        ∃ q ∈ (Ledger.ofRecord before).begun, ∃ r ∈ (Ledger.ofRecord before).accepted,
          q.id = id ∧ r.id = id ∧ result = r.outcome q.function ∧
            ∀ t ∈ (fresh.ledger steps).accepted, t.id = id → t = r) ∧
    ∀ id, (fresh.record steps).filter (Event.concerns id) =
      (fresh.record (steps.filter (Step.spares id))).filter (Event.concerns id) := by
  have agrees := agrees_after steps
  have numbered : (fresh.ledger steps).begun.map (·.id) =
      List.range' 1 (fresh.ledger steps).begun.length := by
    have count := congrArg List.length agrees.numbered
    rw [List.length_map, List.length_range'] at count
    rw [agrees.numbered, count]
  refine ⟨numbered, ?_, agrees.acceptedOnce, ?_, fun id => (Alike.refl id fresh).record steps⟩
  · rw [numbered]
    exact List.pairwise_lt_range'
  · intro before e later split id result ended answered
    obtain ⟨ss, s, ts, rfl, rfl, rfl⟩ := exists_of_record_eq_append split
    obtain disconnected | ⟨q, hq, r, hr, hqi, hri, ho⟩ := (agrees_after ss).result ended
    · exact absurd disconnected answered
    · refine ⟨q, hq, r, hr, hqi, hri, ho, fun t ht hti => ?_⟩
      have kept : r ∈ (fresh.ledger (ss ++ s :: ts)).accepted := by
        rw [ledger, record_append, Ledger.ofRecord_append]
        exact List.mem_append_left _ hr
      exact List.inj_on_of_nodup_map agrees.acceptedOnce ht kept (hti.trans hri.symm)

/-- Two calls that are answered in the other order, between a response that nobody waits for and a
second answer. -/
def crossing : List Step :=
  [.call "defined".toList ["app".toList], .call "call".toList ["close".toList],
    .respond (.failure 2 "closed".toList), .respond (.success 3 .null),
    .respond (.success 1 (.bool true)), .respond (.success 2 .null), .poll 1, .poll 2]

theorem calls_correlated_crossing :
    (fresh.record crossing)[7]?.bind Event.result? =
        some (2, .error (.remote "call".toList "closed".toList)) ∧
      ∃ q ∈ (fresh.ledger (crossing.take 7)).begun,
        ∃ r ∈ (fresh.ledger (crossing.take 7)).accepted, q.id = 2 ∧ r.id = 2 ∧
          .error (.remote "call".toList "closed".toList) = r.outcome q.function ∧
            ∀ t ∈ (fresh.ledger crossing).accepted, t.id = 2 → t = r :=
  ⟨rfl, (calls_correlated crossing).2.2.2.1 (fresh.record (crossing.take 7)) _ [] rfl 2 _ rfl
    (by simp)⟩

end Channel

end Declutter
