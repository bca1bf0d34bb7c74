import Declutter.Bridge.Service
import Declutter.Proofs.Keyed

namespace Declutter

namespace Channel

/-- An open channel over which `n` calls have been made, all of them finished. -/
def idle (n : Nat) : Channel := ⟨n, [], [], [], [], true, true⟩

/-- An open channel with one unfinished call, of which the rest says how far it has got. -/
def busy (r : PageRequest) (queue : List PageRequest) (waiting : List Nat)
    (answers : List PageResponse) : Channel :=
  ⟨r.id, [r], queue, waiting, answers, true, true⟩

variable {r : PageRequest} {response : PageResponse}

theorem call_idle {n : Nat} (id : r.id = n + 1) :
    (idle n).call r.function r.args = (busy r [r] [r.id] [], .pending) := by
  obtain ⟨function, args, _⟩ := r
  cases id
  simp [call, enter, idle, busy, poll]

theorem respond_busy (id : response.id = r.id) :
    ((busy r [] [r.id] []).respond response).1 = busy r [] [] [response] := by
  simp [respond, busy, id]

theorem poll_busy (id : response.id = r.id) :
    (busy r [] [] [response]).poll r.id =
      (idle r.id, .finished (response.outcome r.function)) := by
  simp [poll, busy, idle, close, id]

end Channel

namespace PageScope

variable {φ : Type}

/-- Two scopes with the same global values and with functions at the same paths. -/
structure SamePaths (s t : PageScope φ) : Prop where
  globals : s.globals = t.globals
  functions : ∀ path, (s.functions.get? path).isSome = (t.functions.get? path).isSome

theorem SamePaths.trans {s t u : PageScope φ} (h : s.SamePaths t) (k : t.SamePaths u) :
    s.SamePaths u :=
  ⟨h.globals.trans k.globals, fun path => (h.functions path).trans (k.functions path)⟩

theorem SamePaths.isDefined_eq {s t : PageScope φ} (h : s.SamePaths t) (path : Text) :
    s.isDefined path = t.isDefined path := by
  rw [isDefined, isDefined, h.functions, resolve?, resolve?, h.globals]

variable [Callable φ]

/-- The called function is left as it is given, and the others follow it. -/
theorem get?_settle (s : PageScope φ) (path other : Text) (called : φ) :
    (s.settle path called).functions.get? other =
      if other = path then some called
      else (s.functions.get? other).map (Callable.affect called) := by
  rw [settle, Keyed.get?_put, Keyed.get?_map]

theorem settle_samePaths {s : PageScope φ} {path : Text} {f : φ}
    (found : s.functions.get? path = some f) (called : φ) : (s.settle path called).SamePaths s := by
  refine ⟨rfl, fun other => ?_⟩
  rw [get?_settle]
  split
  next same => rw [same, found, Option.isSome_some, Option.isSome_some]
  next => exact Option.isSome_map

/-- A call leaves a function where there was one. -/
theorem invoke_samePaths (s : PageScope φ) (id : Nat) (path : Text) (args : List Text) :
    (s.invoke id path args).1.SamePaths s := by
  unfold invoke
  split
  next => exact ⟨rfl, fun _ => rfl⟩
  next f found =>
    rcases Callable.apply f args with ⟨g, _ | _⟩
    · exact settle_samePaths found g
    · exact settle_samePaths found g

theorem handle_samePaths (s : PageScope φ) (r : PageRequest) : (s.handle r).1.SamePaths s := by
  unfold handle
  split
  · split <;> exact ⟨rfl, fun _ => rfl⟩
  · split
    · split
      · exact s.invoke_samePaths r.id _ _
      · exact ⟨rfl, fun _ => rfl⟩
    · exact ⟨rfl, fun _ => rfl⟩

theorem invoke_id (s : PageScope φ) (id : Nat) (path : Text) (args : List Text) :
    (s.invoke id path args).2.id = id := by
  unfold invoke
  split
  next => rfl
  next f _ => rcases Callable.apply f args with ⟨g, _ | _⟩ <;> rfl

/-- A response has the number of its request. -/
theorem handle_id (s : PageScope φ) (r : PageRequest) : (s.handle r).2.id = r.id := by
  unfold handle
  split
  · split <;> rfl
  · split
    · split
      · exact s.invoke_id r.id _ _
      · rfl
    · rfl

/-- What requests one after the other leave of a scope. -/
def behind (scope : PageScope φ) (requests : List PageRequest) : PageScope φ :=
  requests.foldl (fun s q => (s.handle q).1) scope

theorem behind_concat (scope : PageScope φ) (requests : List PageRequest) (q : PageRequest) :
    scope.behind (requests ++ [q]) = ((scope.behind requests).handle q).1 := by
  simp [behind]

/-- Requests leave the functions of a scope where they are. -/
theorem behind_samePaths (scope : PageScope φ) (requests : List PageRequest) :
    (scope.behind requests).SamePaths scope :=
  List.foldlRecOn (motive := fun s => s.SamePaths scope) requests _ ⟨rfl, fun _ => rfl⟩
    fun s same q _ => (handle_samePaths s q).trans same

/-- A request has its place among others, and its answer is that of the scope which those before it
leave. -/
def Answers (scope : PageScope φ) (requests : List PageRequest) (q : PageRequest)
    (r : PageResponse) : Prop :=
  ∃ k, requests[k]? = some q ∧ r = ((scope.behind (requests.take k)).handle q).2

variable {scope : PageScope φ} {requests : List PageRequest} {q : PageRequest} {r : PageResponse}

theorem Answers.append (a : scope.Answers requests q r) (more : List PageRequest) :
    scope.Answers (requests ++ more) q r := by
  obtain ⟨k, place, answer⟩ := a
  have within := (List.getElem?_eq_some_iff.mp place).1
  refine ⟨k, ?_, ?_⟩
  · rw [List.getElem?_append_left within, place]
  · rw [answer, List.take_append_of_le_length (Nat.le_of_lt within)]

theorem answers_concat (scope : PageScope φ) (requests : List PageRequest) (q : PageRequest) :
    scope.Answers (requests ++ [q]) q ((scope.behind requests).handle q).2 :=
  ⟨requests.length, by simp, by rw [List.take_left]⟩

theorem Answers.id_eq (a : scope.Answers requests q r) : r.id = q.id := by
  obtain ⟨k, -, rfl⟩ := a
  exact handle_id _ q

theorem Answers.mem (a : scope.Answers requests q r) : q ∈ requests := by
  obtain ⟨k, place, -⟩ := a
  exact List.mem_of_getElem? place

/-- Among requests of different numbers, the last one has but one answer. -/
theorem Answers.eq_of_concat (nodup : ((requests ++ [q]).map (·.id)).Nodup)
    (a : scope.Answers (requests ++ [q]) q r) : r = ((scope.behind requests).handle q).2 := by
  obtain ⟨k, place, answer⟩ := a
  have last : (requests ++ [q])[requests.length]? = some q := by simp
  have within := (List.getElem?_eq_some_iff.mp place).1
  have same : k = requests.length := by
    refine (List.getElem?_inj (by simpa using within) nodup).mp ?_
    rw [List.getElem?_map, List.getElem?_map, place, last]
  rw [answer, same, List.take_left]

end PageScope

namespace Service

variable {φ : Type} [Callable φ]

theorem serve_busy (scope : PageScope φ) (r : PageRequest) :
    (⟨.busy r [r] [r.id] [], scope⟩ : Service φ).serve =
      ⟨.busy r [] [] [(scope.handle r).2], (scope.handle r).1⟩ := by
  have next : (⟨.busy r [r] [r.id] [], scope⟩ : Service φ).serve =
      ⟨((Channel.busy r [] [r.id] []).respond (scope.handle r).2).1, (scope.handle r).1⟩ := rfl
  rw [next, Channel.respond_busy (scope.handle_id r)]

/-- A call over an idle channel is answered by the scope at its other end. -/
theorem call_idle {n : Nat} {r : PageRequest} (id : r.id = n + 1) (scope : PageScope φ) :
    (⟨.idle n, scope⟩ : Service φ).call r.function r.args =
      (⟨.idle r.id, (scope.handle r).1⟩, (scope.handle r).2.outcome r.function) := by
  have last : (Channel.busy r [r] [r.id] []).lastId = r.id := rfl
  have taken : (Channel.busy r [] [] [(scope.handle r).2]).poll r.id =
      (.idle r.id, .finished ((scope.handle r).2.outcome r.function)) :=
    Channel.poll_busy (scope.handle_id r)
  simp only [call, Channel.call_idle id, serve_busy, last, taken]

/-- The service after calls one after the other. -/
def behind (s : Service φ) : List (Text × List Text) → Service φ
  | [] => s
  | (function, args) :: rest => behind (s.call function args).1 rest

/-- Calls leave the channel idle and the functions of the scope where they are. -/
theorem exists_behind (scope : PageScope φ) (calls : List (Text × List Text)) (n : Nat) :
    ∃ m next, (⟨.idle n, scope⟩ : Service φ).behind calls = ⟨.idle m, next⟩ ∧
      next.SamePaths scope := by
  induction calls generalizing scope n with
  | nil => exact ⟨n, scope, rfl, rfl, fun _ => rfl⟩
  | cons c rest ih =>
    obtain ⟨function, args⟩ := c
    obtain ⟨m, next, last, same⟩ := ih (scope.handle ⟨function, args, n + 1⟩).1 (n + 1)
    refine ⟨m, next, ?_, same.trans (scope.handle_samePaths _)⟩
    rw [behind, call_idle (r := ⟨function, args, n + 1⟩) rfl scope]
    exact last

end Service

end Declutter
