import Declutter.Schedule
import Declutter.Settings
import Mathlib.Data.List.Induction
import Mathlib.Data.List.Basic

namespace Declutter.Schedule

namespace Step

def time? : Step → Option Nat
  | .observe _ now => some now
  | .poll now => some now
  | _ => none

/-- Whether a pass begins or ends. -/
def isBound : Step → Bool
  | .beginPass => true
  | .endPass => true
  | _ => false

end Step

/-- What a step answers: whether the deadline is set again, or whether a pass is due. -/
def answer (s : Schedule) : Step → Option Bool
  | .observe added _ => some (isExternal added)
  | .poll now => some (s.isDue now)
  | _ => none

def behind (debounce : Nat) (steps : List Step) : Schedule :=
  steps.foldl next (start debounce)

/-- What each step answers, and the deadline behind it. -/
def told (s : Schedule) : List Step → List (Option Bool × Option Nat)
  | [] => []
  | x :: rest => (s.answer x, (s.next x).deadline) :: (s.next x).told rest

/-- At place `i` of a run, nodes are observed that the rules have not added. -/
def Stirs (steps : List Step) (i time : Nat) : Prop :=
  ∃ added, steps[i]? = some (.observe added time) ∧ isExternal added = true

/-- At place `i` of a run, a poll finds a pass to be due. -/
def Fires (debounce : Nat) (steps : List Step) (i : Nat) : Prop :=
  ∃ now, steps[i]? = some (.poll now) ∧ (behind debounce (steps.take i)).isDue now = true

/-- Of the steps that begin or end a pass, the last begins one. -/
def UnderWay (past : List Step) : Prop :=
  (past.filter Step.isBound).getLast? = some .beginPass

/-- The page has been stirred, and no pass has been due since. -/
def Unserved (debounce : Nat) (past : List Step) : Prop :=
  ∃ j time, Stirs past j time ∧ ∀ k, j < k → ¬ Fires debounce past k

/-- The page has rested for long enough. -/
def Quiet (debounce : Nat) (past : List Step) (now : Nat) : Prop :=
  ∀ j time, Stirs past j time → time + debounce ≤ now

/-- Times come from a clock of milliseconds in 64 bits that never goes back. -/
structure Clocked (steps : List Step) : Prop where
  ordered : (steps.filterMap Step.time?).Pairwise (· ≤ ·)
  held : ∀ time ∈ steps.filterMap Step.time?, time ≤ Text.maxWord64

/-- A schedule lets a pass be due exactly when none is under way, the page has been stirred since
the last was due, and has rested since. No deadline overflows, nor does the number of passes as long
as 64 bits hold it. -/
structure Exact (debounce : Nat) (steps : List Step) : Prop where
  deadlines : ∀ added now, .observe added now ∈ steps → now + debounce ≤ maxTime
  sums : steps.foldlM step (start debounce) =
    if steps.count .endPass ≤ Text.maxWord64 then some (behind debounce steps) else none
  passes : (behind debounce steps).passes = steps.count .endPass
  fires : ∀ i now, steps[i]? = some (.poll now) →
    (Fires debounce steps i ↔
      ¬ UnderWay (steps.take i) ∧ Unserved debounce (steps.take i) ∧
        Quiet debounce (steps.take i) now)
  once : ∀ i k, i < k → Fires debounce steps i → Fires debounce steps k →
    ∃ j time, i < j ∧ j < k ∧ Stirs steps j time
  kept : ∀ j time i now, j < i → Stirs steps j time → steps[i]? = some (.poll now) →
    ¬ UnderWay (steps.take i) → Quiet debounce (steps.take i) now →
      ∃ k, j < k ∧ k ≤ i ∧ Fires debounce steps k
  ignored : ∀ i added now, steps[i]? = some (.observe added now) → isExternal added = false →
    (start debounce).told (steps.eraseIdx i) = ((start debounce).told steps).eraseIdx i ∧
      behind debounce (steps.eraseIdx i) = behind debounce steps

section Steps

variable {debounce : Nat} {past : List Step} {x : Step}

theorem getElem?_concat_eq_some_iff {j : Nat} {y : Step} :
    (past ++ [x])[j]? = some y ↔ past[j]? = some y ∨ j = past.length ∧ x = y := by
  rcases Nat.lt_trichotomy j past.length with h | rfl | h
  · rw [List.getElem?_append_left h]
    simp [Nat.ne_of_lt h]
  · simp
  · have outside : (past ++ [x]).length ≤ j := by
      rw [List.length_append, List.length_singleton]
      omega
    rw [List.getElem?_eq_none outside, List.getElem?_eq_none (Nat.le_of_lt h)]
    simp [Nat.ne_of_gt h]

theorem behind_concat : behind debounce (past ++ [x]) = (behind debounce past).next x := by
  simp [behind]

theorem stirs_concat {j time : Nat} :
    Stirs (past ++ [x]) j time ↔
      Stirs past j time ∨ j = past.length ∧ ∃ added, x = .observe added time ∧ isExternal added := by
  simp only [Stirs, getElem?_concat_eq_some_iff]
  constructor
  · rintro ⟨added, old | ⟨rfl, rfl⟩, external⟩
    · exact .inl ⟨added, old, external⟩
    · exact .inr ⟨rfl, added, rfl, external⟩
  · rintro (⟨added, old, external⟩ | ⟨rfl, added, rfl, external⟩)
    · exact ⟨added, .inl old, external⟩
    · exact ⟨added, .inr ⟨rfl, rfl⟩, external⟩

theorem lt_of_stirs {j time : Nat} (h : Stirs past j time) : j < past.length := by
  obtain ⟨added, here, -⟩ := h
  exact (List.getElem?_eq_some_iff.mp here).1

theorem lt_of_fires {k : Nat} (h : Fires debounce past k) : k < past.length := by
  obtain ⟨now, here, -⟩ := h
  exact (List.getElem?_eq_some_iff.mp here).1

theorem fires_concat {k : Nat} :
    Fires debounce (past ++ [x]) k ↔ Fires debounce past k ∨
      k = past.length ∧ ∃ now, x = .poll now ∧ (behind debounce past).isDue now = true := by
  constructor
  · rintro ⟨now, here, due⟩
    rcases getElem?_concat_eq_some_iff.mp here with old | ⟨rfl, rfl⟩
    · have within := (List.getElem?_eq_some_iff.mp old).1
      rw [List.take_append_of_le_length (Nat.le_of_lt within)] at due
      exact .inl ⟨now, old, due⟩
    · rw [List.take_left] at due
      exact .inr ⟨rfl, now, rfl, due⟩
  · rintro (⟨now, old, due⟩ | ⟨rfl, now, rfl, due⟩)
    · have within := (List.getElem?_eq_some_iff.mp old).1
      refine ⟨now, getElem?_concat_eq_some_iff.mpr (.inl old), ?_⟩
      rwa [List.take_append_of_le_length (Nat.le_of_lt within)]
    · refine ⟨now, getElem?_concat_eq_some_iff.mpr (.inr ⟨rfl, rfl⟩), ?_⟩
      rwa [List.take_left]

theorem stirs_concat_of_still
    (still : ∀ added time, x = .observe added time → isExternal added = false) {j time : Nat} :
    Stirs (past ++ [x]) j time ↔ Stirs past j time := by
  rw [stirs_concat]
  refine or_iff_left ?_
  rintro ⟨-, added, he, external⟩
  rw [still added time he] at external
  cases external

theorem fires_concat_of_idle
    (idle : ∀ now, x = .poll now → (behind debounce past).isDue now = false) {k : Nat} :
    Fires debounce (past ++ [x]) k ↔ Fires debounce past k := by
  rw [fires_concat]
  refine or_iff_left ?_
  rintro ⟨-, now, he, due⟩
  rw [idle now he] at due
  cases due

theorem underWay_concat :
    UnderWay (past ++ [x]) ↔ x = .beginPass ∨ x ≠ .endPass ∧ UnderWay past := by
  cases x <;> simp [UnderWay, Step.isBound, List.filter_append]

theorem Clocked.init (clocked : Clocked (past ++ [x])) : Clocked past := by
  obtain ⟨ordered, held⟩ := clocked
  rw [List.filterMap_append] at ordered held
  exact ⟨(List.pairwise_append.mp ordered).1, fun time hm => held time (List.mem_append_left _ hm)⟩

theorem Clocked.le_last (clocked : Clocked (past ++ [x])) {now j time : Nat}
    (hx : x.time? = some now) (stirs : Stirs past j time) : time ≤ now := by
  obtain ⟨added, here, -⟩ := stirs
  have earlier : time ∈ past.filterMap Step.time? :=
    List.mem_filterMap.mpr ⟨_, List.mem_of_getElem? here, rfl⟩
  have ordered := clocked.ordered
  rw [List.filterMap_append] at ordered
  exact (List.pairwise_append.mp ordered).2.2 time earlier now (by simp [hx])

theorem Clocked.last_le (clocked : Clocked (past ++ [x])) {now : Nat} (hx : x.time? = some now) :
    now ≤ Text.maxWord64 :=
  clocked.held now (List.mem_filterMap.mpr ⟨x, by simp, hx⟩)

theorem add_le_maxTime {a b : Nat} (ha : a ≤ Text.maxWord64) (hb : b ≤ Text.maxWord64) :
    a + b ≤ maxTime := by
  unfold maxTime
  unfold Text.maxWord64 at *
  omega

theorem next_eq_self {added : List Origin} {now : Nat} (still : isExternal added = false)
    (s : Schedule) : s.next (.observe added now) = s := by
  rw [next, Schedule.observe, still, if_neg (by decide)]

theorem debounce_next (s : Schedule) : (s.next x).debounce = s.debounce := by
  cases x with
  | observe added now =>
    simp only [next, observe]
    split <;> rfl
  | poll now =>
    simp only [next, poll]
    split <;> rfl
  | beginPass => rfl
  | endPass => rfl

theorem passes_next (s : Schedule) : (s.next x).passes = s.passes + [x].count .endPass := by
  cases x with
  | observe added now =>
    simp only [next, observe]
    split <;> rfl
  | poll now =>
    simp only [next, poll]
    split <;> rfl
  | beginPass => rfl
  | endPass => rfl

theorem inFlight_next (s : Schedule) :
    (s.next x).inFlight = true ↔ x = .beginPass ∨ x ≠ .endPass ∧ s.inFlight = true := by
  cases x with
  | observe added now =>
    simp only [next, observe]
    split <;> simp
  | poll now =>
    simp only [next, poll]
    split <;> simp
  | beginPass => simp [next, beginPass]
  | endPass => simp [next, endPass]

/-- What the schedule behind a run keeps of it. -/
structure Kept (debounce : Nat) (past : List Step) : Prop where
  window : (behind debounce past).debounce = debounce
  passes : (behind debounce past).passes = past.count .endPass
  inFlight : (behind debounce past).inFlight = true ↔ UnderWay past
  armed : (behind debounce past).deadline.isSome ↔ Unserved debounce past
  latest : ∀ d, (behind debounce past).deadline = some d →
    (∃ j time, Stirs past j time ∧ time + debounce = d) ∧ Quiet debounce past d

theorem Kept.isDue_iff (kept : Kept debounce past) (now : Nat) :
    (behind debounce past).isDue now = true ↔
      ¬ UnderWay past ∧ Unserved debounce past ∧ Quiet debounce past now := by
  rw [← kept.inFlight, ← kept.armed]
  have latest := kept.latest
  generalize behind debounce past = s at latest ⊢
  cases hd : s.deadline with
  | none => simp [isDue, hd]
  | some d =>
    obtain ⟨⟨j, time, stirs, rfl⟩, quiet⟩ := latest d hd
    have rested : time + debounce ≤ now ↔ Quiet debounce past now := by
      constructor
      · intro h i t stirs
        exact Nat.le_trans (quiet i t stirs) h
      · intro h
        exact h j time stirs
    simp [isDue, hd, rested]

/-- Only the deadline has to be looked at from step to step. -/
theorem Kept.concat (kept : Kept debounce past)
    (armed : ((behind debounce past).next x).deadline.isSome ↔ Unserved debounce (past ++ [x]))
    (latest : ∀ d, ((behind debounce past).next x).deadline = some d →
      (∃ j time, Stirs (past ++ [x]) j time ∧ time + debounce = d) ∧
        Quiet debounce (past ++ [x]) d) :
    Kept debounce (past ++ [x]) := by
  constructor
  · rw [behind_concat, debounce_next, kept.window]
  · rw [behind_concat, passes_next, kept.passes, List.count_append]
  · rw [behind_concat, inFlight_next, kept.inFlight, underWay_concat]
  · rwa [behind_concat]
  · rwa [behind_concat]

/-- A step that neither stirs the page nor finds a pass to be due leaves the deadline alone. -/
theorem Kept.concat_of_still (kept : Kept debounce past)
    (still : ∀ added time, x = .observe added time → isExternal added = false)
    (idle : ∀ now, x = .poll now → (behind debounce past).isDue now = false)
    (same : ((behind debounce past).next x).deadline = (behind debounce past).deadline) :
    Kept debounce (past ++ [x]) := by
  refine kept.concat ?_ ?_
  · simp only [same, kept.armed, Unserved, stirs_concat_of_still still, fires_concat_of_idle idle]
  · simp only [same, Quiet, stirs_concat_of_still still]
    exact kept.latest

theorem Kept.observe (kept : Kept debounce past) {added : List Origin} {now : Nat}
    (clocked : Clocked (past ++ [.observe added now])) :
    Kept debounce (past ++ [.observe added now]) := by
  by_cases external : isExternal added
  · have deadline : ((behind debounce past).next (.observe added now)).deadline =
        some (now + debounce) := by
      simp only [next, Schedule.observe, if_pos external, kept.window]
    have here : Stirs (past ++ [.observe added now]) past.length now :=
      stirs_concat.mpr (.inr ⟨rfl, added, rfl, external⟩)
    refine kept.concat ?_ ?_
    · rw [deadline]
      refine iff_of_true rfl ⟨past.length, now, here, fun k hk fires => ?_⟩
      have within := lt_of_fires fires
      rw [List.length_append, List.length_singleton] at within
      omega
    · rw [deadline]
      rintro d ⟨⟩
      refine ⟨⟨past.length, now, here, rfl⟩, fun j time stirs => ?_⟩
      rcases stirs_concat.mp stirs with earlier | ⟨-, _, he, -⟩
      · have ordered := clocked.le_last rfl earlier
        omega
      · cases he
        exact Nat.le_refl _
  · have external : isExternal added = false := by simpa using external
    refine kept.concat_of_still ?_ (by simp) (by rw [next_eq_self external])
    rintro _ _ ⟨⟩
    exact external

theorem Kept.poll (kept : Kept debounce past) (now : Nat) : Kept debounce (past ++ [.poll now]) := by
  cases due : (behind debounce past).isDue now with
  | true =>
    have cleared : ((behind debounce past).next (.poll now)).deadline = none := by
      rw [next, Schedule.poll, if_pos due]
    refine kept.concat ?_ ?_
    · rw [cleared]
      refine iff_of_false (by simp) ?_
      -- The poll is itself behind whatever has stirred the page.
      rintro ⟨j, time, stirs, unserved⟩
      rcases stirs_concat.mp stirs with earlier | ⟨-, _, he, -⟩
      · exact unserved past.length (lt_of_stirs earlier)
          (fires_concat.mpr (.inr ⟨rfl, now, rfl, due⟩))
      · cases he
    · rw [cleared]
      rintro d ⟨⟩
  | false =>
    refine kept.concat_of_still (by simp) ?_ (by rw [next, Schedule.poll, due, if_neg (by decide)])
    rintro _ ⟨⟩
    exact due

theorem kept_behind (clocked : Clocked past) : Kept debounce past := by
  induction past using List.reverseRecOn with
  | nil =>
    constructor
    · rfl
    · rfl
    · simp [behind, start, UnderWay]
    · simp [behind, start, Unserved, Stirs]
    · rintro d ⟨⟩
  | append_singleton past x ih =>
    have kept := ih clocked.init
    cases x with
    | observe added now => exact kept.observe clocked
    | poll now => exact kept.poll now
    | beginPass => exact kept.concat_of_still (by simp) (by simp) rfl
    | endPass => exact kept.concat_of_still (by simp) (by simp) rfl

end Steps

variable {debounce : Nat} {steps : List Step}

theorem Clocked.take (clocked : Clocked steps) (i : Nat) : Clocked (steps.take i) := by
  have front : (steps.take i).filterMap Step.time? <+: steps.filterMap Step.time? :=
    (List.take_prefix i steps).filterMap Step.time?
  exact ⟨clocked.ordered.sublist front.sublist, fun time hm => clocked.held time (front.mem hm)⟩

theorem stirs_take {i j time : Nat} :
    Stirs (steps.take i) j time ↔ j < i ∧ Stirs steps j time := by
  simp only [Stirs, List.getElem?_take]
  by_cases h : j < i <;> simp [h]

theorem fires_take {i k : Nat} :
    Fires debounce (steps.take i) k ↔ k < i ∧ Fires debounce steps k := by
  simp only [Fires, List.getElem?_take, List.take_take]
  by_cases h : k < i
  · simp [h, Nat.min_eq_left (Nat.le_of_lt h)]
  · simp [h]

theorem fires_iff (clocked : Clocked steps) {i now : Nat} (here : steps[i]? = some (.poll now)) :
    Fires debounce steps i ↔ ¬ UnderWay (steps.take i) ∧ Unserved debounce (steps.take i) ∧
      Quiet debounce (steps.take i) now := by
  have kept : Kept debounce (steps.take i) := kept_behind (clocked.take i)
  rw [← kept.isDue_iff]
  constructor
  · rintro ⟨_, he, due⟩
    cases here.symm.trans he
    exact due
  · intro due
    exact ⟨now, here, due⟩

/-- Once the page is stirred, the next pass is not missed. -/
theorem exists_fires (clocked : Clocked steps) {i j time now : Nat} (before : j < i)
    (stirs : Stirs steps j time) (here : steps[i]? = some (.poll now))
    (idle : ¬ UnderWay (steps.take i)) (quiet : Quiet debounce (steps.take i) now) :
    ∃ k, j < k ∧ k ≤ i ∧ Fires debounce steps k := by
  by_cases served : ∃ k, j < k ∧ k < i ∧ Fires debounce steps k
  · obtain ⟨k, hj, hi, fires⟩ := served
    exact ⟨k, hj, Nat.le_of_lt hi, fires⟩
  · have unserved : Unserved debounce (steps.take i) := by
      refine ⟨j, time, stirs_take.mpr ⟨before, stirs⟩, fun k hk fires => ?_⟩
      obtain ⟨hi, fires⟩ := fires_take.mp fires
      exact served ⟨k, hk, hi, fires⟩
    exact ⟨i, before, Nat.le_refl i, (fires_iff clocked here).mpr ⟨idle, unserved, quiet⟩⟩

theorem stirs_between (clocked : Clocked steps) {i k : Nat} (before : i < k)
    (first : Fires debounce steps i) (second : Fires debounce steps k) :
    ∃ j time, i < j ∧ j < k ∧ Stirs steps j time := by
  obtain ⟨now, here, -⟩ := id second
  obtain ⟨-, ⟨j, time, stirs, unserved⟩, -⟩ := (fires_iff clocked here).mp second
  obtain ⟨hj, stirs⟩ := stirs_take.mp stirs
  refine ⟨j, time, ?_, hj, stirs⟩
  rcases Nat.lt_trichotomy i j with h | rfl | h
  · exact h
  · obtain ⟨_, poll, -⟩ := first
    obtain ⟨_, observe, -⟩ := stirs
    cases poll.symm.trans observe
  · exact absurd (fires_take.mpr ⟨before, first⟩) (unserved i h)

/-- Nodes that the rules have added leave no trace. -/
theorem told_eraseIdx {added : List Origin} {i now : Nat}
    (here : steps[i]? = some (.observe added now)) (still : isExternal added = false)
    (s : Schedule) :
    s.told (steps.eraseIdx i) = (s.told steps).eraseIdx i ∧
      (steps.eraseIdx i).foldl next s = steps.foldl next s := by
  induction steps generalizing s i with
  | nil => cases here
  | cons x rest ih =>
    cases i with
    | zero =>
      cases here
      simp only [told, List.eraseIdx_cons_zero, List.foldl_cons, next_eq_self still, and_self]
    | succ i =>
      obtain ⟨answers, last⟩ := ih here (s.next x)
      simp only [told, List.eraseIdx_cons_succ, List.foldl_cons, answers, last, and_self]

/-- Whatever a step adds up can be held, but for one more pass than can be counted. -/
theorem Kept.holds_iff {past : List Step} {x : Step} (kept : Kept debounce past)
    (clocked : Clocked (past ++ [x])) (fits : debounce ≤ Text.maxWord64)
    (few : past.count .endPass ≤ Text.maxWord64) :
    (behind debounce past).holds x = true ↔ (past ++ [x]).count .endPass ≤ Text.maxWord64 := by
  cases x with
  | observe added now =>
    have sum : now + debounce ≤ maxTime := add_le_maxTime (clocked.last_le rfl) fits
    simp [holds, kept.window, sum, few]
  | poll now => simp [holds, few]
  | beginPass => simp [holds, few]
  | endPass => simp [holds, kept.passes]

/-- A run comes to its end unless it has more passes than can be counted. -/
theorem foldlM_step (clocked : Clocked steps) (fits : debounce ≤ Text.maxWord64) :
    steps.foldlM step (start debounce) =
      if steps.count .endPass ≤ Text.maxWord64 then some (behind debounce steps) else none := by
  induction steps using List.reverseRecOn with
  | nil => rfl
  | append_singleton past x ih =>
    have kept : Kept debounce past := kept_behind clocked.init
    rw [List.foldlM_append, ih clocked.init]
    by_cases few : past.count .endPass ≤ Text.maxWord64
    · rw [if_pos few, behind_concat]
      simp only [← kept.holds_iff clocked fits few, List.foldlM_cons, List.foldlM_nil, bind_pure]
      rfl
    · have more : ¬ (past ++ [x]).count .endPass ≤ Text.maxWord64 := by
        rw [List.count_append]
        omega
      rw [if_neg few, if_neg more]
      rfl

/-- Whatever is done with a schedule in whatever order, a pass is due just when it should be. -/
theorem exact_of_clocked (settings : Settings) (word : settings.debounceMs ≤ Text.maxWord64)
    (clocked : Clocked steps) : Exact settings.debounceMs steps where
  deadlines _ now here :=
    add_le_maxTime (clocked.held now (List.mem_filterMap.mpr ⟨_, here, rfl⟩)) word
  sums := foldlM_step clocked word
  passes := (kept_behind clocked).passes
  fires _ _ here := fires_iff clocked here
  once _ _ before first second := stirs_between clocked before first second
  kept _ _ _ _ before stirs here idle quiet := exists_fires clocked before stirs here idle quiet
  ignored _ _ _ here still := told_eraseIdx here still _

/-- A page that is stirred in a burst, and again by a pass and beside it. -/
def unrest : List Step :=
  [.observe [.external] 0, .observe [.external] 60, .poll 100, .poll 160, .beginPass,
    .observe [.engine] 165, .observe [.engine, .external] 170, .poll 300, .endPass, .poll 300,
    .poll 301]

theorem exact_of_clocked_unrest :
    let settings := { Settings.standard with debounceMs := 100 }
    settings.debounceMs ≤ Text.maxWord64 ∧ Clocked unrest ∧ Exact settings.debounceMs unrest ∧
      ((start settings.debounceMs).told unrest).map Prod.fst =
        [some true, some true, some false, some true, none, some false, some true, some false,
          none, some true, some false] := by
  intro settings
  have word : settings.debounceMs ≤ Text.maxWord64 := by decide
  have clocked : Clocked unrest := ⟨by decide, by decide⟩
  exact ⟨word, clocked, exact_of_clocked settings word clocked, by decide⟩

end Declutter.Schedule
