import Declutter.Proofs.Bridge.Ledger

namespace Declutter

namespace Channel

theorem after_ends (c : Channel) (steps : List Step) :
    (.dropClient ∉ steps → (c.after steps).hasClient = c.hasClient) ∧
      (.dropEndpoint ∉ steps → (c.after steps).hasEndpoint = c.hasEndpoint) := by
  constructor
  · intro kept
    rw [hasClient_after, Step.all_keepsClient_iff.mpr kept, Bool.and_true]
  · intro kept
    rw [hasEndpoint_after, Step.all_keepsPage_iff.mpr kept, Bool.and_true]

/-- Without a page nothing is accepted any more. -/
theorem no_page {c : Channel} (dropped : c.hasEndpoint = false) (steps : List Step) :
    (c.after steps).hasEndpoint = false ∧ (c.ledger steps).accepted = [] := by
  constructor
  · rw [hasEndpoint_after, dropped, Bool.false_and]
  · refine filterMap_record_eq_nil (fun c => c.hasEndpoint = false) (fun c s gone => ⟨?_, ?_⟩)
      dropped steps
    · rw [hasEndpoint_step, gone, Bool.false_and]
    · cases s <;> simp [step, gone, Event.accepted?]

theorem record_map_step (c : Channel) (steps : List Step) :
    (c.record steps).map Event.step = steps := by
  induction steps generalizing c with
  | nil => rfl
  | cons s rest ih => rw [record, List.map_cons, ih]

/-- A call is closed only by a step that polls it or gives it up, or as it begins. -/
theorem Event.closed?_eq_some {e : Event} {id : Nat} (h : e.closed? = some id) :
    e.step = .poll id ∨ e.step = .abandon id ∨ ∃ q, e.begun? = some q ∧ q.id = id := by
  unfold closed? at h
  rcases Option.or_eq_some_iff.mp h with h | ⟨-, h⟩
  · obtain ⟨⟨i, result⟩, hr, rfl⟩ := Option.map_eq_some_iff.mp h
    unfold result? at hr
    split at hr
    · cases hr
      exact .inr (.inr ⟨_, rfl, rfl⟩)
    · cases hr
      exact .inl rfl
    · cases hr
  · unfold abandoned? at h
    split at h
    · cases h
      exact .inr (.inl rfl)
    · cases h

/-- A call that has not ended goes on until it is polled or given up. -/
theorem unfinished_of_left_alone {before later : List Step} {q : PageRequest}
    (unfinished : q ∈ (fresh.ledger before).unfinished) (polled : .poll q.id ∉ later)
    (abandoned : .abandon q.id ∉ later) : q ∈ (fresh.ledger (before ++ later)).unfinished := by
  have nodup := (agrees_after (before ++ later)).begun_nodup
  obtain ⟨begun, unclosed⟩ := Ledger.mem_unfinished.mp unfinished
  rw [ledger, record_append, Ledger.ofRecord_append] at nodup ⊢
  refine Ledger.mem_unfinished.mpr ⟨List.mem_append_left _ begun, fun hm => ?_⟩
  rcases List.mem_append.mp hm with hm | hm
  · exact unclosed hm
  · obtain ⟨e, he, closes⟩ := List.mem_filterMap.mp hm
    have taken : e.step ∈ later := by
      rw [← record_map_step (fresh.after before) later]
      exact List.mem_map_of_mem he
    rcases Event.closed?_eq_some closes with hs | hs | ⟨p, hp, same⟩
    · exact polled (hs ▸ taken)
    · exact abandoned (hs ▸ taken)
    · rw [List.map_append] at nodup
      refine (List.nodup_append.mp nodup).2.2 q.id (List.mem_map_of_mem begun) p.id ?_ same.symm
      exact List.mem_map_of_mem (List.mem_filterMap.mpr ⟨e, he, hp⟩)

theorem no_page_after_drop (before later : List Step) :
    (fresh.after (before ++ .dropEndpoint :: later)).hasEndpoint = false ∧
      (fresh.ledger (before ++ .dropEndpoint :: later)).accepted =
        (fresh.ledger before).accepted := by
  obtain ⟨gone, accepted⟩ :=
    no_page (rfl : (fresh.after before).dropEndpoint.hasEndpoint = false) later
  constructor
  · rw [after_append]
    exact gone
  · rw [ledger, record_append, Ledger.ofRecord_append]
    have quiet : ((fresh.after before).ledger (.dropEndpoint :: later)).accepted = [] := accepted
    exact (congrArg _ quiet).trans (List.append_nil _)

/-- While there is a page, the calls that have a place to wait are those without an answer, and
just these can be answered. Once it is gone nobody waits: a call that had no answer ends without one
when it is looked at, as does every later call, and an answer that has come can still be fetched.
Where the numbers fit 64 bits is said by `ids_fit`. -/
theorem waiting_exact (steps : List Step) :
    (.dropEndpoint ∉ steps →
      (fresh.after steps).pendingCount = (fresh.ledger steps).unanswered.length ∧
      ∀ r, (((fresh.after steps).step (.respond r)).2 = .responded (.ok ()) ↔
          r.id ∈ (fresh.ledger steps).unanswered) ∧
        (r.id ∉ (fresh.ledger steps).unanswered →
          (fresh.after steps).step (.respond r) =
            (fresh.after steps, .responded (.error (.unknownId r.id))))) ∧
    ∀ before later, steps = before ++ .dropEndpoint :: later →
      (fresh.after steps).pendingCount = 0 ∧
      (∀ id ∈ (fresh.ledger before).unanswered, .poll id ∉ later → .abandon id ∉ later →
        ((fresh.after steps).step (.poll id)).2 = .polled (.finished (.error .disconnected))) ∧
      (.dropClient ∉ steps → ∀ function args,
        ((fresh.after steps).step (.call function args)).2 =
          .call ((fresh.after steps).lastId + 1) (.finished (.error .disconnected))) ∧
      ∀ q ∈ (fresh.ledger before).unfinished, ∀ r ∈ (fresh.ledger before).accepted, r.id = q.id →
        .poll q.id ∉ later → .abandon q.id ∉ later →
          ((fresh.after steps).step (.poll q.id)).2 =
            .polled (.finished (r.outcome q.function)) := by
  have agrees := agrees_after steps
  constructor
  · intro kept
    have endpoint : (fresh.after steps).hasEndpoint = true := (after_ends fresh steps).2 kept
    have waiting : (fresh.after steps).waiting = (fresh.ledger steps).unanswered := by
      rw [agrees.waiting, if_pos endpoint]
    refine ⟨congrArg List.length waiting, fun r => ?_⟩
    have step : (fresh.after steps).step (.respond r) =
        (((fresh.after steps).respond r).1, .responded ((fresh.after steps).respond r).2) := by
      simp only [Channel.step, endpoint, if_true]
    rw [step, agrees.respond_eq endpoint]
    by_cases held : r.id ∈ (fresh.ledger steps).unanswered
    · simp [held]
    · simp [held]
  · rintro before later rfl
    obtain ⟨gone, accepted⟩ := no_page_after_drop before later
    have waiting : (fresh.after (before ++ .dropEndpoint :: later)).waiting = [] := by
      rw [agrees.waiting, gone]
      rfl
    have still : ∀ q ∈ (fresh.ledger before).unfinished, .poll q.id ∉ later →
        .abandon q.id ∉ later →
          q ∈ (fresh.ledger (before ++ .dropEndpoint :: later)).unfinished := by
      intro q hq polled abandoned
      exact unfinished_of_left_alone hq (by simpa using polled) (by simpa using abandoned)
    refine ⟨congrArg List.length waiting, ?_, ?_, ?_⟩
    · intro id hid polled abandoned
      obtain ⟨⟨q, hq, rfl⟩, unanswered⟩ := Ledger.mem_unanswered.mp hid
      have same : (fresh.ledger (before ++ .dropEndpoint :: later)).isAnswered q.id = false := by
        rw [Ledger.isAnswered, accepted]
        exact unanswered
      simp only [step, agrees.poll_unanswered (still q hq polled abandoned) same, gone,
        Bool.false_eq_true, if_false]
    · intro kept function args
      have client : (fresh.after (before ++ .dropEndpoint :: later)).hasClient = true :=
        (after_ends fresh _).1 kept
      simp only [step, client, if_true, agrees.call_eq, gone, Bool.false_eq_true, if_false]
      rfl
    · intro q hq r hr same polled abandoned
      rw [← accepted] at hr
      simp only [step, agrees.poll_answered (still q hq polled abandoned) hr same]

/-- Three calls, of which the first is answered and the last is given up. -/
def parting : List Step :=
  [.call "defined".toList ["app".toList], .call "defined".toList ["user".toList],
    .call "call".toList ["close".toList], .respond (.success 1 (.bool true)), .abandon 3]

theorem waiting_exact_parting :
    (fresh.after parting).pendingCount = [2].length ∧
      (fresh.after parting).step (.respond (.success 3 .null)) =
        (fresh.after parting, .responded (.error (.unknownId 3))) ∧
      ((fresh.after (parting ++ [.dropEndpoint])).step (.poll 2)).2 =
        .polled (.finished (.error .disconnected)) ∧
      ((fresh.after (parting ++ [.dropEndpoint])).step (.call "call".toList [])).2 =
        .call 4 (.finished (.error .disconnected)) ∧
      ((fresh.after (parting ++ [.dropEndpoint])).step (.poll 1)).2 =
        .polled (.finished (.ok (.bool true))) := by
  obtain ⟨count, respond⟩ := (waiting_exact parting).1 (by simp [parting])
  obtain ⟨-, disconnected, later, answered⟩ :=
    (waiting_exact (parting ++ [.dropEndpoint])).2 parting [] rfl
  have unanswered : (fresh.ledger parting).unanswered = [2] := rfl
  refine ⟨unanswered ▸ count, (respond _).2 (by simp [unanswered, PageResponse.success]),
    disconnected 2 (by simp [unanswered]) (by simp) (by simp), later (by simp [parting]) _ _, ?_⟩
  exact answered ⟨"defined".toList, ["app".toList], 1⟩ (by decide)
    (.success 1 (.bool true)) (by decide) rfl (by simp) (by simp)

end Channel

end Declutter
