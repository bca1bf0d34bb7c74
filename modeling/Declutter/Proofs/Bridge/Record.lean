import Declutter.Bridge.Channel
import Mathlib.Data.List.Nodup
import Mathlib.Data.List.Range

namespace Declutter

namespace Channel

/-- A step with what it has answered. -/
structure Event where
  step : Step
  reply : Reply

def after (c : Channel) : List Step → Channel
  | [] => c
  | s :: rest => (c.step s).1.after rest

def record (c : Channel) : List Step → List Event
  | [] => []
  | s :: rest => ⟨s, (c.step s).2⟩ :: (c.step s).1.record rest

theorem after_append (c : Channel) (ss ts : List Step) :
    c.after (ss ++ ts) = (c.after ss).after ts := by
  induction ss generalizing c with
  | nil => rfl
  | cons s ss ih => exact ih (c.step s).1

theorem record_append (c : Channel) (ss ts : List Step) :
    c.record (ss ++ ts) = c.record ss ++ (c.after ss).record ts := by
  induction ss generalizing c with
  | nil => rfl
  | cons s ss ih => exact congrArg (_ :: ·) (ih (c.step s).1)

theorem filterMap_record_concat {α : Type} (f : Event → Option α) (c : Channel) (steps : List Step)
    (s : Step) :
    (c.record (steps ++ [s])).filterMap f =
      (c.record steps).filterMap f ++ (f ⟨s, ((c.after steps).step s).2⟩).toList := by
  rw [record_append, List.filterMap_append]
  cases h : f ⟨s, ((c.after steps).step s).2⟩ <;> simp [record, h]

/-- What no step shows once something is gone for good, no run shows. -/
theorem filterMap_record_eq_nil {α : Type} {f : Event → Option α} (Gone : Channel → Prop)
    (stays : ∀ (c : Channel) s, Gone c → Gone (c.step s).1 ∧ f ⟨s, (c.step s).2⟩ = none)
    {c : Channel} (gone : Gone c) (steps : List Step) : (c.record steps).filterMap f = [] := by
  induction steps generalizing c with
  | nil => rfl
  | cons s rest ih =>
    obtain ⟨still, quiet⟩ := stays c s gone
    rw [record, List.filterMap_cons_none quiet]
    exact ih still

theorem exists_of_record_eq_append {c : Channel} {steps : List Step} {before later : List Event}
    {e : Event} (h : c.record steps = before ++ e :: later) :
    ∃ ss s ts, steps = ss ++ s :: ts ∧ c.record ss = before ∧ e = ⟨s, ((c.after ss).step s).2⟩ := by
  induction before generalizing c steps with
  | nil =>
    cases steps with
    | nil => simp [record] at h
    | cons s rest =>
      obtain ⟨he, -⟩ := List.cons.inj h
      exact ⟨[], s, rest, rfl, rfl, he.symm⟩
  | cons b before ih =>
    cases steps with
    | nil => simp [record] at h
    | cons t rest =>
      obtain ⟨hb, hr⟩ := List.cons.inj h
      obtain ⟨ss, s, ts, rfl, hs, he⟩ := ih hr
      exact ⟨t :: ss, s, ts, rfl, by rw [record, hs, hb], he⟩

theorem poll_eq_self_or_close (c : Channel) (id : Nat) :
    (c.poll id).1 = c ∨ (c.poll id).1 = c.close id := by
  unfold poll
  split
  · exact .inl rfl
  · split
    · exact .inr rfl
    · split
      · exact .inl rfl
      · exact .inr rfl

theorem poll_lastId (c : Channel) (id : Nat) : (c.poll id).1.lastId = c.lastId := by
  rcases c.poll_eq_self_or_close id with h | h <;> rw [h]
  rfl

theorem poll_queue (c : Channel) (id : Nat) : (c.poll id).1.queue = c.queue := by
  rcases c.poll_eq_self_or_close id with h | h <;> rw [h]
  rfl

theorem abandon_queue (c : Channel) (id : Nat) : (c.abandon id).1.queue = c.queue := by
  unfold abandon
  split <;> rfl

theorem respond_queue (c : Channel) (r : PageResponse) : (c.respond r).1.queue = c.queue := by
  unfold respond
  split
  · dsimp only
    split <;> rfl
  · rfl

theorem call_lastId (c : Channel) (function : Text) (args : List Text) :
    (c.call function args).1.lastId = c.lastId + 1 := by
  unfold call
  dsimp only
  split
  · exact poll_lastId _ _
  · rfl

/-- Whether there is a client and a page. -/
def ends (c : Channel) : Bool × Bool := (c.hasClient, c.hasEndpoint)

theorem poll_ends (c : Channel) (id : Nat) : (c.poll id).1.ends = c.ends := by
  rcases c.poll_eq_self_or_close id with h | h <;> rw [h]
  rfl

/-- Both ends stay until they are dropped, and do not come back. -/
theorem step_ends (c : Channel) (s : Step) :
    (c.step s).1.ends = match s with
      | .dropEndpoint => (c.hasClient, false)
      | .dropClient => (false, c.hasEndpoint)
      | _ => c.ends := by
  cases s with
  | call function args =>
    simp only [step]
    split
    · simp only [call]
      split
      · exact poll_ends _ _
      · rfl
    · rfl
  | poll id => exact c.poll_ends id
  | abandon id =>
    simp only [step, abandon]
    split <;> rfl
  | receive =>
    simp only [step, receive]
    split
    · split <;> rfl
    · rfl
  | respond r =>
    simp only [step, respond]
    split
    · split
      · split <;> rfl
      · rfl
    · rfl
  | dropEndpoint => rfl
  | dropClient => rfl

namespace Step

/-- The function and the arguments of a call. -/
def call? : Step → Option (Text × List Text)
  | .call function args => some (function, args)
  | _ => none

def keepsClient : Step → Bool
  | .dropClient => false
  | _ => true

def keepsPage : Step → Bool
  | .dropEndpoint => false
  | _ => true

theorem all_keepsClient_iff {steps : List Step} :
    steps.all keepsClient = true ↔ .dropClient ∉ steps := by
  induction steps with
  | nil => simp
  | cons s rest ih =>
    rw [List.all_cons, Bool.and_eq_true, ih]
    cases s <;> simp [keepsClient]

theorem all_keepsPage_iff {steps : List Step} :
    steps.all keepsPage = true ↔ .dropEndpoint ∉ steps := by
  induction steps with
  | nil => simp
  | cons s rest ih =>
    rw [List.all_cons, Bool.and_eq_true, ih]
    cases s <;> simp [keepsPage]

end Step

/-- Only a call takes a new number. -/
theorem step_lastId_le (c : Channel) (s : Step) :
    (c.step s).1.lastId ≤ c.lastId + s.call?.toList.length := by
  cases s with
  | call function args =>
    simp only [step]
    split
    · exact Nat.le_of_eq (c.call_lastId function args)
    · exact Nat.le_succ c.lastId
  | poll id => exact Nat.le_of_eq (c.poll_lastId id)
  | abandon id =>
    simp only [step, abandon]
    split <;> exact Nat.le_refl _
  | receive =>
    simp only [step, receive]
    split
    · split <;> exact Nat.le_refl _
    · exact Nat.le_refl _
  | respond r =>
    simp only [step, respond]
    split
    · split
      · split <;> exact Nat.le_refl _
      · exact Nat.le_refl _
    · exact Nat.le_refl _
  | dropEndpoint => exact Nat.le_refl _
  | dropClient => exact Nat.le_refl _

theorem after_lastId_le (c : Channel) (steps : List Step) :
    (c.after steps).lastId ≤ c.lastId + (steps.filterMap Step.call?).length := by
  induction steps generalizing c with
  | nil => exact Nat.le_refl _
  | cons s rest ih =>
    calc (c.after (s :: rest)).lastId
        ≤ (c.step s).1.lastId + (rest.filterMap Step.call?).length := ih _
      _ ≤ c.lastId + s.call?.toList.length + (rest.filterMap Step.call?).length :=
        Nat.add_le_add_right (c.step_lastId_le s) _
      _ = c.lastId + ((s :: rest).filterMap Step.call?).length := by
        rw [Nat.add_assoc, ← List.length_append]
        cases h : s.call? <;> simp [h]

theorem hasClient_step (c : Channel) (s : Step) :
    (c.step s).1.hasClient = (c.hasClient && s.keepsClient) := by
  refine (congrArg Prod.fst (c.step_ends s)).trans ?_
  cases s <;> simp [Step.keepsClient, ends]

theorem hasEndpoint_step (c : Channel) (s : Step) :
    (c.step s).1.hasEndpoint = (c.hasEndpoint && s.keepsPage) := by
  refine (congrArg Prod.snd (c.step_ends s)).trans ?_
  cases s <;> simp [Step.keepsPage, ends]

theorem hasClient_after (c : Channel) (steps : List Step) :
    (c.after steps).hasClient = (c.hasClient && steps.all Step.keepsClient) := by
  induction steps generalizing c with
  | nil => exact (Bool.and_true _).symm
  | cons s rest ih => rw [after, ih, hasClient_step, Bool.and_assoc, List.all_cons]

theorem hasEndpoint_after (c : Channel) (steps : List Step) :
    (c.after steps).hasEndpoint = (c.hasEndpoint && steps.all Step.keepsPage) := by
  induction steps generalizing c with
  | nil => exact (Bool.and_true _).symm
  | cons s rest ih => rw [after, ih, hasEndpoint_step, Bool.and_assoc, List.all_cons]

namespace Event

/-- The request of a call that an event begins. -/
def begun? : Event → Option PageRequest
  | ⟨.call function args, .call id _⟩ => some ⟨function, args, id⟩
  | _ => none

def accepted? : Event → Option PageResponse
  | ⟨.respond r, .responded (.ok ())⟩ => some r
  | _ => none

/-- The request that the page gets in an event. -/
def received? : Event → Option PageRequest
  | ⟨.receive, .received (.request q)⟩ => some q
  | _ => none

/-- The result that a call ends with in an event. -/
def result? : Event → Option (Nat × Except BridgeError Json)
  | ⟨.call _ _, .call id (.finished result)⟩ => some (id, result)
  | ⟨.poll id, .polled (.finished result)⟩ => some (id, result)
  | _ => none

/-- The call that is given up in an event. -/
def abandoned? : Event → Option Nat
  | ⟨.abandon id, .abandoned true⟩ => some id
  | _ => none

/-- The call that is finished or given up in an event. -/
def closed? (e : Event) : Option Nat :=
  (e.result?.map Prod.fst).or e.abandoned?

end Event

end Channel

/-- What is known of a channel from its events alone. -/
structure Ledger where
  begun : List PageRequest
  accepted : List PageResponse
  closed : List Nat

namespace Ledger

def ofRecord (es : List Channel.Event) : Ledger :=
  ⟨es.filterMap Channel.Event.begun?, es.filterMap Channel.Event.accepted?,
    es.filterMap Channel.Event.closed?⟩

/-- The calls that are neither finished nor given up. -/
def unfinished (l : Ledger) : List PageRequest :=
  l.begun.filter fun q => !l.closed.contains q.id

def isAnswered (l : Ledger) (id : Nat) : Bool :=
  l.accepted.any (·.id == id)

/-- The numbers of the calls that are neither answered nor finished nor given up. -/
def unanswered (l : Ledger) : List Nat :=
  (l.unfinished.filter fun q => !l.isAnswered q.id).map (·.id)

section Notes

variable (l : Ledger)

def begin (q : PageRequest) : Ledger := { l with begun := l.begun ++ [q] }

def accept (r : PageResponse) : Ledger := { l with accepted := l.accepted ++ [r] }

def close (id : Nat) : Ledger := { l with closed := l.closed ++ [id] }

/-- A ledger with what one more event tells. -/
def note (e : Channel.Event) : Ledger :=
  ⟨l.begun ++ e.begun?.toList, l.accepted ++ e.accepted?.toList, l.closed ++ e.closed?.toList⟩

theorem note_quiet {e : Channel.Event} (begun : e.begun? = none) (accepted : e.accepted? = none)
    (closed : e.closed? = none) : l.note e = l := by
  simp [note, begun, accepted, closed]

theorem note_begin (function : Text) (args : List Text) (id : Nat) :
    l.note ⟨.call function args, .call id .pending⟩ = l.begin ⟨function, args, id⟩ := by
  simp [note, begin, Channel.Event.begun?, Channel.Event.accepted?, Channel.Event.closed?,
    Channel.Event.result?, Channel.Event.abandoned?]

theorem note_begin_close (function : Text) (args : List Text) (id : Nat)
    (result : Except BridgeError Json) :
    l.note ⟨.call function args, .call id (.finished result)⟩ =
      (l.begin ⟨function, args, id⟩).close id := by
  simp [note, begin, close, Channel.Event.begun?, Channel.Event.accepted?,
    Channel.Event.closed?, Channel.Event.result?]

theorem note_finish (id : Nat) (result : Except BridgeError Json) :
    l.note ⟨.poll id, .polled (.finished result)⟩ = l.close id := by
  simp [note, close, Channel.Event.begun?, Channel.Event.accepted?, Channel.Event.closed?,
    Channel.Event.result?]

theorem note_abandon (id : Nat) : l.note ⟨.abandon id, .abandoned true⟩ = l.close id := by
  simp [note, close, Channel.Event.begun?, Channel.Event.accepted?, Channel.Event.closed?,
    Channel.Event.result?, Channel.Event.abandoned?]

theorem note_accept (r : PageResponse) :
    l.note ⟨.respond r, .responded (.ok ())⟩ = l.accept r := by
  simp [note, accept, Channel.Event.begun?, Channel.Event.accepted?, Channel.Event.closed?,
    Channel.Event.result?, Channel.Event.abandoned?]

end Notes

theorem ofRecord_concat (es : List Channel.Event) (e : Channel.Event) :
    ofRecord (es ++ [e]) = (ofRecord es).note e := by
  have single : ∀ {β : Type} (f : Channel.Event → Option β), [e].filterMap f = (f e).toList := by
    intro β f
    cases he : f e <;> simp [he]
  simp only [ofRecord, note, List.filterMap_append, single]

theorem ofRecord_append (es fs : List Channel.Event) :
    ofRecord (es ++ fs) = ⟨(ofRecord es).begun ++ (ofRecord fs).begun,
      (ofRecord es).accepted ++ (ofRecord fs).accepted,
      (ofRecord es).closed ++ (ofRecord fs).closed⟩ := by
  simp [ofRecord, List.filterMap_append]

variable {l : Ledger}

theorem mem_unfinished {q : PageRequest} :
    q ∈ l.unfinished ↔ q ∈ l.begun ∧ q.id ∉ l.closed := by
  simp [unfinished]

theorem isAnswered_iff {id : Nat} : l.isAnswered id = true ↔ ∃ r ∈ l.accepted, r.id = id := by
  simp [isAnswered]

theorem mem_unanswered {id : Nat} :
    id ∈ l.unanswered ↔ (∃ q ∈ l.unfinished, q.id = id) ∧ l.isAnswered id = false := by
  simp only [unanswered, List.mem_map, List.mem_filter, Bool.not_eq_true']
  constructor
  · rintro ⟨q, ⟨hq, ha⟩, rfl⟩
    exact ⟨⟨q, hq, rfl⟩, ha⟩
  · rintro ⟨⟨q, hq, rfl⟩, ha⟩
    exact ⟨q, ⟨hq, ha⟩, rfl⟩

theorem isAnswered_accept (l : Ledger) (r : PageResponse) (id : Nat) :
    (l.accept r).isAnswered id = (l.isAnswered id || r.id == id) := by
  simp [isAnswered, accept]

theorem closed_or_isAnswered {q : PageRequest} (begun : q ∈ l.begun)
    (answered : q.id ∉ l.unanswered) : q.id ∈ l.closed ∨ l.isAnswered q.id = true := by
  rw [mem_unanswered] at answered
  by_cases closed : q.id ∈ l.closed
  · exact .inl closed
  · refine .inr (Bool.of_not_eq_false fun none => ?_)
    exact answered ⟨⟨q, mem_unfinished.mpr ⟨begun, closed⟩, rfl⟩, none⟩

end Ledger

end Declutter
