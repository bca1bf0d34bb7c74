import Declutter.Proofs.Bridge.Record

namespace Declutter

theorem find?_of_nodup_map {α : Type} (key : α → Nat) {xs : List α}
    (nodup : (xs.map key).Nodup) {x : α} (hx : x ∈ xs) : xs.find? (fun y => key y == key x) = some x := by
  induction xs with
  | nil => simp at hx
  | cons y ys ih =>
    obtain ⟨absent, rest⟩ := List.nodup_cons.mp nodup
    rcases List.mem_cons.mp hx with rfl | hm
    · simp
    · have ne : key y ≠ key x := fun he => absent (he ▸ List.mem_map_of_mem hm)
      rw [List.find?_cons_of_neg (by simpa using ne)]
      exact ih rest hm

namespace Ledger

variable {l : Ledger}

theorem unfinished_begin {q : PageRequest} (unclosed : q.id ∉ l.closed) :
    (l.begin q).unfinished = l.unfinished ++ [q] := by
  simp [unfinished, begin, unclosed]

theorem unanswered_begin {q : PageRequest} (unclosed : q.id ∉ l.closed)
    (unanswered : l.isAnswered q.id = false) :
    (l.begin q).unanswered = l.unanswered ++ [q.id] := by
  have same : (l.begin q).isAnswered = l.isAnswered := rfl
  simp [Ledger.unanswered, unfinished_begin unclosed, same, unanswered]

theorem unfinished_close (id : Nat) :
    (l.close id).unfinished = l.unfinished.filter (·.id != id) := by
  simp only [unfinished, close, List.filter_filter]
  refine List.filter_congr fun q _ => ?_
  by_cases he : q.id = id <;> simp [he]

theorem unanswered_close (id : Nat) :
    (l.close id).unanswered = l.unanswered.filter (· != id) := by
  have same : (l.close id).isAnswered = l.isAnswered := rfl
  simp only [unanswered, unfinished_close, same, List.filter_map, List.filter_filter]
  refine congrArg _ (List.filter_congr fun q _ => ?_)
  exact Bool.and_comm _ _

theorem unanswered_accept (r : PageResponse) :
    (l.accept r).unanswered = l.unanswered.filter (· != r.id) := by
  have same : (l.accept r).unfinished = l.unfinished := rfl
  simp only [unanswered, same, List.filter_map, List.filter_filter]
  refine congrArg _ (List.filter_congr fun q _ => ?_)
  simp only [isAnswered_accept, Bool.not_or, Function.comp_apply, bne, Bool.beq_comm, Bool.and_comm]

end Ledger

namespace Channel

/-- A channel holds what its ledger says: unfinished calls under their numbers, accepted responses
that have not been fetched, and a place for each call that has no answer while there is a page. -/
structure Agrees (l : Ledger) (c : Channel) : Prop where
  numbered : l.begun.map (·.id) = List.range' 1 c.lastId
  calls : c.calls = l.unfinished
  waiting : c.waiting = if c.hasEndpoint then l.unanswered else []
  answers : c.answers = l.accepted.filter fun r => !l.closed.contains r.id
  acceptedOnce : (l.accepted.map (·.id)).Nodup
  acceptedBegun : ∀ r ∈ l.accepted, ∃ q ∈ l.begun, q.id = r.id
  closedBegun : ∀ id ∈ l.closed, ∃ q ∈ l.begun, q.id = id

theorem agrees_fresh : Agrees ⟨[], [], []⟩ fresh where
  numbered := rfl
  calls := rfl
  waiting := rfl
  answers := rfl
  acceptedOnce := .nil
  acceptedBegun := by simp
  closedBegun := by simp

namespace Agrees

variable {l : Ledger} {c : Channel}

theorem begun_nodup (h : Agrees l c) : (l.begun.map (·.id)).Nodup := by
  rw [h.numbered]
  exact List.nodup_range'

theorem begun_inj (h : Agrees l c) {p q : PageRequest} (hp : p ∈ l.begun) (hq : q ∈ l.begun)
    (same : p.id = q.id) : p = q :=
  List.inj_on_of_nodup_map h.begun_nodup hp hq same

theorem id_le (h : Agrees l c) {q : PageRequest} (hq : q ∈ l.begun) : q.id ≤ c.lastId := by
  have hm : q.id ∈ l.begun.map (·.id) := List.mem_map_of_mem hq
  rw [h.numbered, List.mem_range'_1] at hm
  omega

theorem find_call (h : Agrees l c) {q : PageRequest} (hq : q ∈ l.unfinished) :
    c.calls.find? (·.id == q.id) = some q := by
  rw [h.calls]
  refine find?_of_nodup_map PageRequest.id ?_ hq
  exact h.begun_nodup.sublist (List.filter_sublist.map _)

theorem find_answer (h : Agrees l c) {r : PageResponse} (hr : r ∈ l.accepted)
    (unclosed : r.id ∉ l.closed) : c.answers.find? (·.id == r.id) = some r := by
  rw [h.answers]
  refine find?_of_nodup_map PageResponse.id ?_ ?_
  · exact h.acceptedOnce.sublist (List.filter_sublist.map _)
  · simp [hr, unclosed]

theorem find_answer_eq_none (h : Agrees l c) {id : Nat} (unanswered : l.isAnswered id = false) :
    c.answers.find? (·.id == id) = none := by
  rw [h.answers, List.find?_eq_none]
  intro r hr he
  have answered : l.isAnswered id = true :=
    Ledger.isAnswered_iff.mpr ⟨r, (List.mem_filter.mp hr).1, by simpa using he⟩
  rw [unanswered] at answered
  cases answered

theorem poll_missing (h : Agrees l c) {id : Nat} (absent : ∀ q ∈ l.unfinished, q.id ≠ id) :
    c.poll id = (c, .missing) := by
  have none : c.calls.find? (·.id == id) = none := by
    rw [h.calls, List.find?_eq_none]
    intro q hq
    simpa using absent q hq
  simp [poll, none]

theorem poll_answered (h : Agrees l c) {q : PageRequest} (hq : q ∈ l.unfinished)
    {r : PageResponse} (hr : r ∈ l.accepted) (same : r.id = q.id) :
    c.poll q.id = (c.close q.id, .finished (r.outcome q.function)) := by
  have unclosed : r.id ∉ l.closed := same ▸ (Ledger.mem_unfinished.mp hq).2
  have found := h.find_answer hr unclosed
  rw [same] at found
  simp [poll, h.find_call hq, found]

theorem poll_unanswered (h : Agrees l c) {q : PageRequest} (hq : q ∈ l.unfinished)
    (unanswered : l.isAnswered q.id = false) :
    c.poll q.id =
      if c.hasEndpoint then (c, .pending) else (c.close q.id, .finished (.error .disconnected)) := by
  have held : q.id ∈ l.unanswered := Ledger.mem_unanswered.mpr ⟨⟨q, hq, rfl⟩, unanswered⟩
  rw [poll, h.find_call hq, h.find_answer_eq_none unanswered, h.waiting]
  by_cases he : c.hasEndpoint
  · simp [he, held]
  · simp [he]

/-- A response is taken exactly if it answers a call that has no answer, and otherwise changes
nothing. -/
theorem respond_eq (h : Agrees l c) (endpoint : c.hasEndpoint = true) (r : PageResponse) :
    c.respond r =
      if r.id ∈ l.unanswered then
        ({ c with
            waiting := c.waiting.filter (· != r.id)
            answers := c.answers ++ [r] }, .ok ())
      else (c, .error (.unknownId r.id)) := by
  have waiting : c.waiting = l.unanswered := by simpa [endpoint] using h.waiting
  by_cases hu : r.id ∈ l.unanswered
  · obtain ⟨⟨q, hq, same⟩, -⟩ := Ledger.mem_unanswered.mp hu
    have called : c.calls.any (·.id == r.id) = true := by
      rw [h.calls, List.any_eq_true]
      exact ⟨q, hq, by simpa using same⟩
    simp [respond, waiting, hu, called]
  · simp [respond, waiting, hu]

theorem fresh_unclosed (h : Agrees l c) : c.lastId + 1 ∉ l.closed := by
  intro hm
  obtain ⟨q, hq, same⟩ := h.closedBegun _ hm
  have := h.id_le hq
  omega

theorem fresh_unanswered (h : Agrees l c) : l.isAnswered (c.lastId + 1) = false := by
  rw [Bool.eq_false_iff, Ne, Ledger.isAnswered_iff]
  rintro ⟨r, hr, same⟩
  obtain ⟨q, hq, hs⟩ := h.acceptedBegun r hr
  have := h.id_le hq
  omega

theorem numbered_begin (h : Agrees l c) (function : Text) (args : List Text) :
    (l.begin ⟨function, args, c.lastId + 1⟩).begun.map (·.id) = List.range' 1 (c.lastId + 1) := by
  have last : (1 + 1 * c.lastId) = c.lastId + 1 := by omega
  rw [List.range'_concat, last, ← h.numbered]
  simp [Ledger.begin]

theorem begin (h : Agrees l c) (endpoint : c.hasEndpoint = true) (function : Text)
    (args : List Text) :
    Agrees (l.begin (c.enter function args).2)
      { (c.enter function args).1 with queue := c.queue ++ [(c.enter function args).2] } where
  numbered := h.numbered_begin function args
  calls := by
    rw [Ledger.unfinished_begin h.fresh_unclosed, ← h.calls]
    rfl
  waiting := by
    have waiting := h.waiting
    rw [if_pos endpoint] at waiting
    simp only [enter, endpoint, if_true]
    rw [Ledger.unanswered_begin h.fresh_unclosed h.fresh_unanswered, waiting]
  answers := h.answers
  acceptedOnce := h.acceptedOnce
  acceptedBegun r hr := by
    obtain ⟨q, hq, same⟩ := h.acceptedBegun r hr
    exact ⟨q, List.mem_append_left _ hq, same⟩
  closedBegun id hm := by
    obtain ⟨q, hq, same⟩ := h.closedBegun id hm
    exact ⟨q, List.mem_append_left _ hq, same⟩

theorem close (h : Agrees l c) {q : PageRequest} (hq : q ∈ l.begun) :
    Agrees (l.close q.id) (c.close q.id) where
  numbered := h.numbered
  calls := by
    rw [Ledger.unfinished_close, ← h.calls]
    rfl
  waiting := by
    have waiting := h.waiting
    simp only [Channel.close, waiting, Ledger.unanswered_close]
    split <;> simp
  answers := by
    simp only [Channel.close, Ledger.close, h.answers, List.filter_filter]
    refine List.filter_congr fun r _ => ?_
    by_cases he : r.id = q.id <;> simp [he]
  acceptedOnce := h.acceptedOnce
  acceptedBegun := h.acceptedBegun
  closedBegun id hm := by
    rcases List.mem_append.mp hm with hm | hm
    · exact h.closedBegun id hm
    · exact ⟨q, hq, (List.mem_singleton.mp hm).symm⟩

/-- A call that cannot be sent leaves nothing but its number. -/
theorem begin_close (h : Agrees l c) (endpoint : c.hasEndpoint = false) (function : Text)
    (args : List Text) :
    Agrees ((l.begin (c.enter function args).2).close (c.lastId + 1))
      ((c.enter function args).1.close (c.lastId + 1)) where
  numbered := h.numbered_begin function args
  calls := by
    rw [Ledger.unfinished_close, Ledger.unfinished_begin h.fresh_unclosed, ← h.calls]
    rfl
  waiting := by
    have waiting := h.waiting
    simp only [endpoint, Bool.false_eq_true, if_false] at waiting
    simp [Channel.close, enter, waiting, endpoint]
  answers := by
    simp only [Channel.close, Ledger.close, enter, Ledger.begin, h.answers, List.filter_filter]
    refine List.filter_congr fun r _ => ?_
    by_cases he : r.id = c.lastId + 1 <;> simp [he]
  acceptedOnce := h.acceptedOnce
  acceptedBegun r hr := by
    obtain ⟨q, hq, same⟩ := h.acceptedBegun r hr
    exact ⟨q, List.mem_append_left _ hq, same⟩
  closedBegun id hm := by
    rcases List.mem_append.mp hm with hm | hm
    · obtain ⟨q, hq, same⟩ := h.closedBegun id hm
      exact ⟨q, List.mem_append_left _ hq, same⟩
    · exact ⟨_, List.mem_append_right _ (List.mem_singleton_self _),
        (List.mem_singleton.mp hm).symm⟩

theorem accept (h : Agrees l c) (endpoint : c.hasEndpoint = true) {r : PageResponse}
    (held : r.id ∈ l.unanswered) :
    Agrees (l.accept r)
      { c with waiting := c.waiting.filter (· != r.id), answers := c.answers ++ [r] } := by
  obtain ⟨⟨q, hq, same⟩, unanswered⟩ := Ledger.mem_unanswered.mp held
  obtain ⟨hb, unclosed⟩ := Ledger.mem_unfinished.mp hq
  rw [same] at unclosed
  exact {
    numbered := h.numbered
    calls := h.calls
    waiting := by
      have waiting := h.waiting
      simp only [endpoint, if_true] at waiting ⊢
      rw [Ledger.unanswered_accept, waiting]
    answers := by
      simp [Ledger.accept, h.answers, unclosed]
    acceptedOnce := by
      have absent : r.id ∉ l.accepted.map (·.id) := by
        intro hm
        obtain ⟨s, hs, he⟩ := List.mem_map.mp hm
        rw [Ledger.isAnswered_iff.mpr ⟨s, hs, he⟩] at unanswered
        cases unanswered
      rw [Ledger.accept, List.map_append]
      exact List.nodup_append.mpr ⟨h.acceptedOnce, by simp, by
        intro a ha b hb he
        exact absent (by simpa [he ▸ List.mem_singleton.mp hb] using ha)⟩
    acceptedBegun := by
      intro s hs
      rcases List.mem_append.mp hs with hs | hs
      · exact h.acceptedBegun s hs
      · exact ⟨q, hb, (List.mem_singleton.mp hs) ▸ same⟩
    closedBegun := h.closedBegun }

theorem call_eq (h : Agrees l c) (function : Text) (args : List Text) :
    c.call function args =
      if c.hasEndpoint then
        ({ (c.enter function args).1 with queue := c.queue ++ [(c.enter function args).2] }, .pending)
      else ((c.enter function args).1.close (c.lastId + 1), .finished (.error .disconnected)) := by
  by_cases endpoint : c.hasEndpoint
  · have entered := h.begin endpoint function args
    have waits : (c.enter function args).2 ∈ (l.begin (c.enter function args).2).unfinished := by
      rw [Ledger.unfinished_begin h.fresh_unclosed]
      exact List.mem_append_right _ (List.mem_singleton_self _)
    have polled := entered.poll_unanswered waits h.fresh_unanswered
    simp only [enter, endpoint, if_true] at polled
    simp only [call, enter, endpoint, if_true]
    exact polled
  · simp [call, enter, endpoint]

theorem quiet (h : Agrees l c) {e : Event} (begun : e.begun? = none)
    (accepted : e.accepted? = none) (closed : e.closed? = none) : Agrees (l.note e) c := by
  rwa [Ledger.note_quiet l begun accepted closed]

/-- Every step keeps a channel in agreement with its ledger. -/
theorem step (h : Agrees l c) (s : Step) : Agrees (l.note ⟨s, (c.step s).2⟩) (c.step s).1 := by
  cases s with
  | call function args =>
    by_cases client : c.hasClient
    · by_cases endpoint : c.hasEndpoint
      · simp only [Channel.step, client, if_true, h.call_eq, endpoint, Ledger.note_begin]
        exact h.begin endpoint function args
      · simp only [Channel.step, client, if_true, h.call_eq, endpoint, Bool.false_eq_true, if_false,
          Ledger.note_begin_close]
        exact h.begin_close (by simpa using endpoint) function args
    · simp only [Channel.step, client, Bool.false_eq_true, if_false]
      exact h.quiet rfl rfl rfl
  | poll id =>
    by_cases called : ∃ q ∈ l.unfinished, q.id = id
    · obtain ⟨q, hq, rfl⟩ := called
      have closed := h.close (Ledger.mem_unfinished.mp hq).1
      cases answered : l.isAnswered q.id with
      | true =>
        obtain ⟨r, hr, same⟩ := Ledger.isAnswered_iff.mp answered
        simpa only [Channel.step, h.poll_answered hq hr same, Ledger.note_finish] using closed
      | false =>
        simp only [Channel.step, h.poll_unanswered hq answered]
        by_cases endpoint : c.hasEndpoint
        · rw [if_pos endpoint]
          exact h.quiet rfl rfl rfl
        · simpa only [endpoint, Bool.false_eq_true, if_false, Ledger.note_finish] using closed
    · have absent : ∀ q ∈ l.unfinished, q.id ≠ id := fun q hq he => called ⟨q, hq, he⟩
      simp only [Channel.step, h.poll_missing absent]
      exact h.quiet rfl rfl rfl
  | abandon id =>
    cases called : c.calls.any (·.id == id) with
    | true =>
      obtain ⟨q, hq, same⟩ := List.any_eq_true.mp called
      obtain rfl : q.id = id := by simpa using same
      rw [h.calls] at hq
      simp only [Channel.step, abandon, called, if_true, Ledger.note_abandon]
      exact h.close (Ledger.mem_unfinished.mp hq).1
    | false =>
      simp only [Channel.step, abandon, called, Bool.false_eq_true, if_false]
      exact h.quiet rfl rfl rfl
  | receive =>
    simp only [Channel.step]
    split
    · have same : Agrees l c.receive.1 := by
        unfold receive
        split
        · exact { h with waiting := h.waiting }
        · exact h
      exact same.quiet rfl rfl rfl
    · exact h.quiet rfl rfl rfl
  | respond r =>
    by_cases endpoint : c.hasEndpoint
    · have step : c.step (.respond r) = ((c.respond r).1, .responded (c.respond r).2) := by
        simp [Channel.step, endpoint]
      rw [step, h.respond_eq endpoint]
      by_cases held : r.id ∈ l.unanswered
      · rw [if_pos held, Ledger.note_accept]
        exact h.accept endpoint held
      · rw [if_neg held]
        exact h.quiet rfl rfl rfl
    · simp only [Channel.step, endpoint]
      exact h.quiet rfl rfl rfl
  | dropEndpoint =>
    have dropped : Agrees l c.dropEndpoint := { h with waiting := rfl }
    exact dropped.quiet rfl rfl rfl
  | dropClient =>
    have dropped : Agrees l c.dropClient := { h with waiting := h.waiting }
    exact dropped.quiet rfl rfl rfl

end Agrees

def ledger (c : Channel) (steps : List Step) : Ledger :=
  .ofRecord (c.record steps)

/-- Whatever is done with a fresh channel, it agrees with the ledger of all that has happened. -/
theorem agrees_after (steps : List Step) :
    Agrees (fresh.ledger steps) (fresh.after steps) := by
  induction steps using List.reverseRecOn with
  | nil => exact agrees_fresh
  | append_singleton steps s ih =>
    rw [ledger, record_append, after_append]
    simp only [record, after, Ledger.ofRecord_concat]
    exact ih.step s

/-- With fewer than `2 ^ 64` calls, no number of a call takes more than 64 bits, nor does that of a
response that is accepted. -/
theorem ids_fit {steps : List Step}
    (few : (steps.filterMap Step.call?).length ≤ Text.maxWord64) :
    (fresh.after steps).lastId ≤ Text.maxWord64 ∧
      (∀ q ∈ (fresh.ledger steps).begun, q.id ≤ Text.maxWord64) ∧
      (∀ r ∈ (fresh.ledger steps).accepted, r.id ≤ Text.maxWord64) ∧
      ∀ id ∈ (fresh.ledger steps).closed, id ≤ Text.maxWord64 := by
  have agrees := agrees_after steps
  have last : (fresh.after steps).lastId ≤ Text.maxWord64 :=
    Nat.le_trans (after_lastId_le fresh steps) (by rwa [fresh, Nat.zero_add])
  have begun : ∀ q ∈ (fresh.ledger steps).begun, q.id ≤ Text.maxWord64 :=
    fun q hq => Nat.le_trans (agrees.id_le hq) last
  refine ⟨last, begun, fun r hr => ?_, fun id hm => ?_⟩
  · obtain ⟨q, hq, same⟩ := agrees.acceptedBegun r hr
    exact same ▸ begun q hq
  · obtain ⟨q, hq, rfl⟩ := agrees.closedBegun id hm
    exact begun q hq

end Channel

end Declutter
