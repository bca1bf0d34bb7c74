import Declutter.Proofs.Bridge.Ledger
import Mathlib.Data.List.TakeWhile

namespace Declutter

namespace Channel

/-- Requests for calls, numbered from one. -/
def numbered (calls : List (Text × List Text)) : List PageRequest :=
  calls.mapIdx fun i call => ⟨call.1, call.2, i + 1⟩

theorem length_numbered (calls : List (Text × List Text)) :
    (numbered calls).length = calls.length :=
  List.length_mapIdx

theorem numbered_concat (calls : List (Text × List Text)) (call : Text × List Text) :
    numbered (calls ++ [call]) = numbered calls ++ [⟨call.1, call.2, calls.length + 1⟩] :=
  List.mapIdx_concat

theorem pairwise_numbered (calls : List (Text × List Text)) :
    (numbered calls).Pairwise fun p q => p.id < q.id := by
  induction calls using List.reverseRecOn with
  | nil => exact .nil
  | append_singleton calls call ih =>
    rw [numbered_concat, List.pairwise_append]
    refine ⟨ih, List.pairwise_singleton _ _, fun p hp q hq => ?_⟩
    obtain ⟨i, hi, rfl⟩ := List.mem_mapIdx.mp hp
    rw [List.mem_singleton.mp hq]
    exact Nat.succ_lt_succ hi

/-- The requests of the calls that are made while there are both a client and a page. -/
def sent (steps : List Step) : List PageRequest :=
  numbered (((steps.takeWhile Step.keepsPage).takeWhile Step.keepsClient).filterMap Step.call?)

/-- The requests that the page has got. -/
def received (steps : List Step) : List PageRequest :=
  (fresh.record steps).filterMap Event.received?

theorem begun?_step (c : Channel) (s : Step) :
    Event.begun? ⟨s, (c.step s).2⟩ =
      if c.hasClient then s.call?.map fun call => ⟨call.1, call.2, c.lastId + 1⟩ else none := by
  cases s with
  | call function args =>
    by_cases client : c.hasClient
    · simp [step, client, Event.begun?, Step.call?, call_lastId]
    · simp [step, client, Event.begun?]
  | _ => simp [Event.begun?, Step.call?]

/-- What a channel never shows again once something of it is gone, it has shown before. -/
theorem filterMap_record_takeWhile {α : Type} {f : Event → Option α} {keeps : Step → Bool}
    (Gone : Channel → Prop)
    (goes : ∀ (c : Channel) s, keeps s = false ∨ Gone c →
      Gone (c.step s).1 ∧ f ⟨s, (c.step s).2⟩ = none) (c : Channel) (steps : List Step) :
    (c.record steps).filterMap f = (c.record (steps.takeWhile keeps)).filterMap f := by
  induction steps generalizing c with
  | nil => rfl
  | cons s rest ih =>
    cases kept : keeps s with
    | true =>
      rw [List.takeWhile_cons_of_pos kept, record, record, List.filterMap_cons, List.filterMap_cons,
        ih]
    | false =>
      obtain ⟨gone, quiet⟩ := goes c s (.inl kept)
      rw [List.takeWhile_cons_of_neg (by simp [kept])]
      refine (List.filterMap_cons_none quiet).trans ?_
      exact filterMap_record_eq_nil Gone (fun c s gone => goes c s (.inr gone)) gone rest

theorem begun_of_client {steps : List Step} (kept : steps.all Step.keepsClient = true) :
    (fresh.ledger steps).begun = numbered (steps.filterMap Step.call?) := by
  induction steps using List.reverseRecOn with
  | nil => rfl
  | append_singleton steps s ih =>
    rw [List.all_append, Bool.and_eq_true] at kept
    have begun := ih kept.1
    have client : (fresh.after steps).hasClient = true := by
      rw [hasClient_after, kept.1]
      rfl
    -- The channel counts the calls begun, so the next is numbered by how many are in front.
    have count : (fresh.after steps).lastId = (steps.filterMap Step.call?).length := by
      have agreed := congrArg List.length (agrees_after steps).numbered
      rw [begun] at agreed
      simpa [length_numbered] using agreed.symm
    refine (filterMap_record_concat Event.begun? fresh steps s).trans ?_
    rw [begun?_step, client, if_pos rfl, count, List.filterMap_append]
    refine (congrArg (· ++ _) begun).trans ?_
    cases call : s.call? with
    | none => simp [call]
    | some c => simp [call, numbered_concat]

/-- The calls that have begun are those made before the client is dropped. -/
theorem begun_eq_numbered (steps : List Step) :
    (fresh.ledger steps).begun =
      numbered ((steps.takeWhile Step.keepsClient).filterMap Step.call?) := by
  rw [← begun_of_client List.all_takeWhile]
  refine filterMap_record_takeWhile (fun c => c.hasClient = false) (fun c s out => ?_) fresh steps
  rw [hasClient_step, begun?_step, Bool.and_eq_false_iff]
  rcases out with lost | gone
  · cases s with
    | dropClient => simp [Step.keepsClient, Step.call?]
    | _ => cases lost
  · simp [gone]

/-- A step sends the request of the call that it begins, and takes the one that the page gets. -/
theorem step_queue {c : Channel} (endpoint : c.hasEndpoint = true) {s : Step}
    (kept : s.keepsPage = true) :
    (Event.received? ⟨s, (c.step s).2⟩).toList ++ (c.step s).1.queue =
      c.queue ++ (Event.begun? ⟨s, (c.step s).2⟩).toList := by
  cases s with
  | call function args =>
    by_cases client : c.hasClient
    · simp only [step, client, if_true, Event.received?, Event.begun?, call_lastId]
      simp only [call, endpoint, if_true, poll_queue]
      rfl
    · simp [step, client, Event.received?, Event.begun?]
  | poll id => simp [step, poll_queue, Event.received?, Event.begun?]
  | abandon id => simp [step, abandon_queue, Event.received?, Event.begun?]
  | receive =>
    cases queue : c.queue with
    | nil =>
      simp only [step, endpoint, receive, queue, if_true]
      split <;> rfl
    | cons q rest => simp [step, endpoint, receive, queue, Event.received?, Event.begun?]
  | respond r => simp [step, endpoint, respond_queue, Event.received?, Event.begun?]
  | dropEndpoint => cases kept
  | dropClient => simp [step, dropClient, Event.received?, Event.begun?]

/-- While there is a page, what it has not got of the requests sent is in the queue. -/
theorem received_append_queue {steps : List Step} (kept : steps.all Step.keepsPage = true) :
    received steps ++ (fresh.after steps).queue = (fresh.ledger steps).begun := by
  induction steps using List.reverseRecOn with
  | nil => rfl
  | append_singleton steps s ih =>
    rw [List.all_append, Bool.and_eq_true] at kept
    have endpoint : (fresh.after steps).hasEndpoint = true := by
      rw [hasEndpoint_after, kept.1]
      rfl
    have step := step_queue endpoint (s := s) (by simpa using kept.2)
    calc received (steps ++ [s]) ++ (fresh.after (steps ++ [s])).queue
        = received steps ++ ((Event.received? ⟨s, ((fresh.after steps).step s).2⟩).toList ++
            ((fresh.after steps).step s).1.queue) := by
          rw [received, filterMap_record_concat, after_append, List.append_assoc]
          rfl
      _ = (fresh.ledger steps).begun ++
            (Event.begun? ⟨s, ((fresh.after steps).step s).2⟩).toList := by
          rw [step, ← List.append_assoc, ih kept.1]
      _ = (fresh.ledger (steps ++ [s])).begun :=
          (filterMap_record_concat Event.begun? fresh steps s).symm

/-- A page that has been dropped gets nothing more. -/
theorem received_takeWhile (steps : List Step) :
    received steps = received (steps.takeWhile Step.keepsPage) := by
  refine filterMap_record_takeWhile (fun c => c.hasEndpoint = false) (fun c s out => ?_) fresh steps
  rw [hasEndpoint_step, Bool.and_eq_false_iff]
  rcases out with lost | gone
  · cases s with
    | dropEndpoint => exact ⟨.inr rfl, rfl⟩
    | _ => cases lost
  · refine ⟨.inl gone, ?_⟩
    cases s <;> simp [step, gone, Event.received?]

theorem received_append_queue_eq_sent (steps : List Step) :
    received steps ++ (fresh.after (steps.takeWhile Step.keepsPage)).queue = sent steps := by
  rw [received_takeWhile, received_append_queue List.all_takeWhile]
  exact begun_eq_numbered _

/-- What a page that looks for a request gets is read off the queue, and where that is empty, off who
is left to send. -/
theorem receive_iff {c : Channel} (endpoint : c.hasEndpoint = true) :
    (∀ q, (c.step .receive).2 = .received (.request q) ↔ c.queue.head? = some q) ∧
    ((c.step .receive).2 = .received .pending ↔
      c.queue = [] ∧ (c.hasClient = true ∨ c.calls ≠ [])) ∧
    ((c.step .receive).2 = .received .closed ↔
      c.queue = [] ∧ c.hasClient = false ∧ c.calls = []) := by
  cases queue : c.queue with
  | cons q rest => simp [step, endpoint, receive, queue]
  | nil =>
    by_cases client : c.hasClient <;> by_cases idle : c.calls = [] <;>
      simp [step, endpoint, receive, queue, client, idle]

/-- With fewer than `2 ^ 64` calls, no request that is sent has a number of more than 64 bits. -/
theorem sent_ids_fit {steps : List Step}
    (few : (steps.filterMap Step.call?).length ≤ Text.maxWord64) :
    (∀ q ∈ sent steps, q.id ≤ Text.maxWord64) ∧ ∀ q ∈ received steps, q.id ≤ Text.maxWord64 := by
  have shorter : ((steps.takeWhile Step.keepsPage).filterMap Step.call?).length ≤
      (steps.filterMap Step.call?).length :=
    ((List.takeWhile_sublist _).filterMap _).length_le
  have begun := (ids_fit (Nat.le_trans shorter few)).2.1
  rw [begun_eq_numbered] at begun
  refine ⟨begun, fun q hq => begun q ?_⟩
  have split := received_append_queue_eq_sent steps
  exact (split ▸ List.mem_append_left _ hq : q ∈ sent steps)

/-- The calls that begin while there is a page are numbered as they are made, and the page gets
their requests in this order, each once and as it was made. While it is there it gets the next of
them if there is one; else it is told to wait as long as there is a client or an unfinished call,
and then that there will be no more. Where the numbers fit 64 bits is said by `sent_ids_fit`. -/
theorem requests_in_order (steps : List Step) :
    (fresh.ledger (steps.takeWhile Step.keepsPage)).begun = sent steps ∧
    received steps <+: sent steps ∧
    ((received steps).map (·.id)).Pairwise (· < ·) ∧
    (.dropEndpoint ∉ steps →
      (∀ q, ((fresh.after steps).step .receive).2 = .received (.request q) ↔
        (sent steps)[(received steps).length]? = some q) ∧
      (((fresh.after steps).step .receive).2 = .received .pending ↔
        received steps = sent steps ∧
          (.dropClient ∉ steps ∨ (fresh.ledger steps).unfinished ≠ [])) ∧
      (((fresh.after steps).step .receive).2 = .received .closed ↔
        received steps = sent steps ∧
          .dropClient ∈ steps ∧ (fresh.ledger steps).unfinished = [])) := by
  have split := received_append_queue_eq_sent steps
  have inOrder : received steps <+: sent steps := ⟨_, split⟩
  refine ⟨begun_eq_numbered _, inOrder, ?_, fun kept => ?_⟩
  · exact List.pairwise_map.mpr ((pairwise_numbered _).sublist inOrder.sublist)
  · have all := Step.all_keepsPage_iff.mpr kept
    have endpoint : (fresh.after steps).hasEndpoint = true := by
      rw [hasEndpoint_after, all]
      rfl
    have client : (fresh.after steps).hasClient = true ↔ .dropClient ∉ steps := by
      rw [hasClient_after, ← Step.all_keepsClient_iff]
      exact Bool.eq_iff_iff.mp (Bool.true_and _)
    rw [List.takeWhile_eq_self_iff.mpr (List.all_eq_true.mp all)] at split
    have next : (fresh.after steps).queue.head? = (sent steps)[(received steps).length]? := by
      rw [← split, List.getElem?_append_right (Nat.le_refl _), Nat.sub_self, List.head?_eq_getElem?]
    have drained : (fresh.after steps).queue = [] ↔ received steps = sent steps := by
      rw [← split]
      exact List.self_eq_append_right.symm
    obtain ⟨request, pending, closed⟩ := receive_iff endpoint
    rw [drained, client, (agrees_after steps).calls] at pending
    rw [drained, Bool.eq_false_iff, Ne, client, not_not, (agrees_after steps).calls] at closed
    exact ⟨fun q => next ▸ request q, pending, closed⟩

/-- Two calls, the first of which is given up before the page has got its request. The client goes,
and the second call is still open. -/
def departure : List Step :=
  [.call "defined".toList ["app".toList], .call "call".toList ["close".toList], .abandon 1,
    .receive, .dropClient, .receive]

/-- The page gets both requests, waits for the open call, and hears the end once that is given up. -/
theorem requests_in_order_departure :
    received departure =
        [⟨"defined".toList, ["app".toList], 1⟩, ⟨"call".toList, ["close".toList], 2⟩] ∧
      received departure <+: sent departure ∧
      ((fresh.after departure).step .receive).2 = .received .pending ∧
      ((fresh.after (departure ++ [.abandon 2])).step .receive).2 = .received .closed := by
  obtain ⟨-, inOrder, -, waits⟩ := requests_in_order departure
  obtain ⟨-, -, -, ends⟩ := requests_in_order (departure ++ [.abandon 2])
  refine ⟨by decide, inOrder, ?_, ?_⟩
  · exact (waits (by simp [departure])).2.1.mpr ⟨by decide, .inr (by decide)⟩
  · exact (ends (by simp [departure])).2.2.mpr
      ⟨by decide, by simp [departure], by decide⟩

end Channel

end Declutter
