import Declutter.Proofs.Engine.Abort
import Declutter.Proofs.Engine.Agreement
import Declutter.Proofs.Engine.Play

namespace Declutter

namespace Report

/-- The category that a report counts once more. -/
def category? : Report → Option Text
  | .completed category _ => some category
  | .failed _ => none

theorem filterMap_category?_filter (reports : List Report) :
    (reports.filter isCompletion).filterMap category? = reports.filterMap category? := by
  rw [List.filterMap_filter]
  congr 1
  funext told
  cases told <;> rfl

end Report

theorem Tally.filterMap_category?_announce (t : Tally) (categories : List Text) :
    (t.announce categories).filterMap Report.category? = categories := by
  induction categories generalizing t with
  | nil => rfl
  | cons c rest ih =>
    exact congrArg (c :: ·) (ih _)

namespace Notice

/-- What is shown once a report has come in, whatever becomes of the store. -/
def hear (n : Notice) : Report → Notice
  | .completed _ total => { n with badge := total }
  | .failed _ => { n with failures := n.failures + 1 }

theorem failures_foldl_hear (n : Notice) (reports : List Report) :
    (reports.foldl hear n).failures =
      n.failures + reports.countP fun told => !told.isCompletion := by
  induction reports generalizing n with
  | nil => rfl
  | cons told rest ih =>
    rw [List.foldl_cons, ih]
    cases told with
    | completed => simp [hear, Report.isCompletion]
    | failed =>
      simp only [hear, Report.isCompletion, Bool.not_false, List.countP_cons_of_pos]
      omega

theorem badge_foldl_hear_filter (n : Notice) (reports : List Report) :
    ((reports.filter Report.isCompletion).foldl hear n).badge = (reports.foldl hear n).badge := by
  -- Failures are dropped on one side only, so the induction is on notices that share but the badge.
  have badge : ∀ (a b : Notice), a.badge = b.badge →
      ((reports.filter Report.isCompletion).foldl hear a).badge = (reports.foldl hear b).badge := by
    induction reports with
    | nil => exact fun a b same => same
    | cons told rest ih =>
      intro a b same
      cases told with
      | completed => exact ih _ _ rfl
      | failed => exact ih _ _ same
  exact badge n n rfl

theorem badge_foldl_hear_announce {n : Notice} {t : Tally} (start : n.badge = t.total)
    (categories : List Text) :
    ((t.announce categories).foldl hear n).badge = (t.countAll categories).total := by
  induction categories generalizing n t with
  | nil => exact start
  | cons c rest ih => exact ih rfl

variable {m : Type → Type} [Monad m]

theorem takeAll_append [LawfulMonad m] (store : TallyStore m) (n : Notice)
    (first second : List Report) :
    n.takeAll store (first ++ second) =
      n.takeAll store first >>= fun n => n.takeAll store second := by
  induction first generalizing n with
  | nil => simp [takeAll]
  | cons told rest ih => simp [takeAll, ih]

end Notice

namespace Engine

variable {m : Type → Type} [Monad m] {σ : Type}

/-- The visits of rules with each report taken in at once, before the next rule is visited. -/
def visitAllTelling (store : TallyStore m) (h : Host σ) (s : σ) (counts : Tally) (n : Notice) :
    List Rule → m (Pass σ × Notice)
  | [] => return (⟨s, ⟨[], counts⟩, [], [], none⟩, n)
  | r :: rest =>
    if r.completed then do
      let (later, n) ← visitAllTelling store h s counts n rest
      return ({ later with
        engine := { later.engine with rules := r :: later.engine.rules }
        visits := none :: later.visits }, n)
    else do
      let (s, v) := Visit.run h r s
      let n ← n.takeAll store (v.news r counts)
      match v.error with
      | some e =>
        let n ← n.take store (.failed e)
        return (⟨s, ⟨v.latch r :: rest, v.count r counts⟩, some v :: rest.map fun _ => none,
          v.news r counts ++ [.failed e], some e⟩, n)
      | none =>
        let (later, n) ← visitAllTelling store h s (v.count r counts) n rest
        return ({ later with
          engine := { later.engine with rules := v.latch r :: later.engine.rules }
          visits := some v :: later.visits
          reports := v.news r counts ++ later.reports }, n)

end Engine

/-- Telling as the rules are visited comes to the same as telling all behind the pass. -/
theorem Pass.Course.visitAllTelling_eq {m : Type → Type} [Monad m] [LawfulMonad m] {σ : Type}
    {h : Host σ} {s : σ} {counts : Tally} {rules : List Rule} {p : Pass σ}
    (c : Course h s counts rules p) (store : TallyStore m) (n : Notice) :
    Engine.visitAllTelling store h s counts n rules = (p, ·) <$> n.takeAll store p.reports := by
  induction c generalizing n with
  | done => simp [Engine.visitAllTelling, Notice.takeAll]
  | skip completed onward ih => simp [Engine.visitAllTelling, completed, ih]
  | abort pending visit failed =>
    simp [Engine.visitAllTelling, pending, visit, failed, Notice.takeAll_append, Notice.takeAll]
  | visit pending visit well onward ih =>
    simp [Engine.visitAllTelling, pending, visit, well, ih, Notice.takeAll_append]

namespace Pass

variable {σ : Type} {h : Host σ} {s : σ} {counts : Tally} {rules : List Rule} {p : Pass σ}

/-- An aborted pass tells of one failure, and any other of none. -/
theorem Course.countP_failed (c : Course h s counts rules p) :
    p.reports.countP (fun told => !told.isCompletion) = if p.error.isSome then 1 else 0 := by
  have news : ∀ (v : Visit) (r : Rule) (counts : Tally),
      (v.news r counts).countP (fun told => !told.isCompletion) = 0 := by
    intro v r counts
    refine List.countP_eq_zero.mpr fun told ht => ?_
    simp [Visit.isCompletion_of_mem_news ht]
  induction c with
  | done => rfl
  | skip _ _ ih => exact ih
  | abort =>
    rw [List.countP_append, news]
    rfl
  | visit _ _ _ _ ih => rw [List.countP_append, news, Nat.zero_add, ih]

end Pass

namespace Engine

variable {m : Type → Type} [Monad m] {σ : Type}

/-- Passes one after the other that all tell one reporter. -/
def playTelling (store : TallyStore m) (n : Notice) (x : Engine) (s : σ) :
    List (Occasion σ) → m (Played σ × Notice)
  | [] => return (⟨[], x, s⟩, n)
  | o :: os => do
    let (p, n) ← visitAllTelling store o.host (o.before s) x.counts n x.rules
    let (later, n) ← playTelling store n p.engine p.state os
    return (.preceded p later, n)

theorem playTelling_eq [LawfulMonad m] (store : TallyStore m) (n : Notice) (x : Engine) (s : σ)
    (os : List (Occasion σ)) :
    playTelling store n x s os = (x.play s os, ·) <$> n.takeAll store (x.play s os).reports := by
  induction os generalizing n x s with
  | nil => simp [playTelling, play, Played.reports, Notice.takeAll]
  | cons o os ih =>
    have told := (visitAll_course o.host (o.before s) x.counts x.rules).visitAllTelling_eq store n
    simp [playTelling, told, ih, play, pass, Played.preceded, Played.reports,
      Notice.takeAll_append]

theorem countP_failed_play (x : Engine) (s : σ) (os : List (Occasion σ)) :
    (x.play s os).reports.countP (fun told => !told.isCompletion) =
      (x.play s os).passes.countP fun p => p.error.isSome := by
  induction os generalizing x s with
  | nil => rfl
  | cons o os ih =>
    have here := (visitAll_course o.host (o.before s) x.counts x.rules).countP_failed
    have later := ih (x.pass o.host (o.before s)).engine (x.pass o.host (o.before s)).state
    simp only [play, Played.preceded, Played.reports, List.flatMap_cons, List.countP_append,
      List.countP_cons] at later ⊢
    rw [later, Nat.add_comm]
    exact congrArg _ here

/-- The categories that passes over pending rules tell of are those of the rules they complete. -/
theorem count_category?_reports_play {rules : List Rule}
    (pending : ∀ r ∈ rules, r.completed = false) (s : σ) (os : List (Occasion σ))
    (category : Text) :
    (((ofRules rules).play s os).reports.filterMap Report.category?).count category =
      ((ofRules rules).play s os).engine.rules.countP (Rule.countsFor category) := by
  rw [← Report.filterMap_category?_filter, reports_play, filter_reports_run,
    Tally.filterMap_category?_announce, engine_play]
  exact count_latchOrder_of_pending pending _ category

theorem badge_play (x : Engine) (s : σ) (os : List (Occasion σ)) {n : Notice}
    (start : n.badge = x.counts.total) :
    ((x.play s os).reports.foldl Notice.hear n).badge = (x.play s os).engine.counts.total := by
  rw [← Notice.badge_foldl_hear_filter, reports_play, filter_reports_run,
    Notice.badge_foldl_hear_announce start, engine_play, after_counts]

theorem total_play_of_pending {rules : List Rule} (pending : ∀ r ∈ rules, r.completed = false)
    {s : σ} {os : List (Occasion σ)}
    (left : ∀ r ∈ ((ofRules rules).play s os).engine.rules, r.completed = false) :
    ((ofRules rules).play s os).engine.counts.total = 0 := by
  rw [engine_play] at left ⊢
  have none : Rule.categoriesAt rules ((ofRules rules).latchOrder
      ((ofRules rules).surroundings s os)) = [] := by
    refine List.eq_nil_iff_forall_not_mem.mpr fun category told => ?_
    rw [← List.count_pos_iff, count_latchOrder_of_pending pending, List.countP_pos_iff] at told
    obtain ⟨r, hr, counts⟩ := told
    simp [Rule.countsFor, left r hr] at counts
  rw [after_counts, show (ofRules rules).rules = rules from rfl, none]
  rfl

end Engine

namespace TallyStore

variable {τ : Type}

/-- A store that gives the tally it holds, and holds the one it is given. -/
structure Working (store : TallyStore (StateM τ)) (held : τ → Tally) : Prop where
  load : ∀ t, ∃ u, store.load t = (.ok (held t), u) ∧ held u = held t
  persist : ∀ new t, ∃ u, store.persist new t = (.ok (), u) ∧ held u = new

/-- A store that can never be read, or never be written. -/
inductive Broken (store : TallyStore (StateM τ)) (held : τ → Tally) : Prop
  | unreadable (load : ∀ t, ∃ e u, store.load t = (.error e, u) ∧ held u = held t)
  | unwritable (load : ∀ t, ∃ result u, store.load t = (result, u) ∧ held u = held t)
      (persist : ∀ new t, ∃ e u, store.persist new t = (.error e, u) ∧ held u = held t)

/-- A store that can be written and not read. -/
def unreadable : TallyStore (StateM Tally) where
  load := fun t => (.error (.read "no tally".toList), t)
  persist := fun new _ => (.ok (), new)

theorem working_memory : memory.Working id where
  load := fun t => ⟨t, rfl, rfl⟩
  persist := fun new _ => ⟨new, rfl, rfl⟩

theorem broken_unreadable : unreadable.Broken id :=
  .unreadable fun t => ⟨_, t, rfl, rfl⟩

variable {store : TallyStore (StateM τ)} {held : τ → Tally}

theorem accumulate_of_read {t u : τ} {now : Tally} (load : store.load t = (.ok now, u))
    (category : Text) :
    Notice.accumulate store category t = store.persist (now.increment category) u := by
  show (store.load >>= _) t = _
  simp only [bind, StateT.bind, load]

theorem accumulate_of_unread {t u : τ} {e : StoreError} (load : store.load t = (.error e, u))
    (category : Text) : Notice.accumulate store category t = (.error e, u) := by
  show (store.load >>= _) t = _
  simp only [bind, StateT.bind, load]
  rfl

theorem Working.held_accumulate (w : store.Working held) (category : Text) (t : τ) :
    held (Notice.accumulate store category t).2 = (held t).increment category := by
  obtain ⟨u, load, -⟩ := w.load t
  obtain ⟨v, persist, new⟩ := w.persist ((held t).increment category) u
  rw [accumulate_of_read load, persist, new]

theorem Broken.held_accumulate (b : store.Broken held) (category : Text) (t : τ) :
    held (Notice.accumulate store category t).2 = held t := by
  cases b with
  | unreadable load =>
    obtain ⟨e, u, load, same⟩ := load t
    rw [accumulate_of_unread load, same]
  | unwritable load persist =>
    obtain ⟨result, u, load, same⟩ := load t
    cases result with
    | error e => rw [accumulate_of_unread load, same]
    | ok now =>
      obtain ⟨e, v, persist, kept⟩ := persist (now.increment category) u
      rw [accumulate_of_read load, persist, kept, same]

end TallyStore

namespace Notice

variable {τ : Type} (store : TallyStore (StateM τ))

/-- What is shown does not depend on the store. -/
theorem fst_takeAll (n : Notice) (reports : List Report) (t : τ) :
    (n.takeAll store reports t).1 = reports.foldl hear n := by
  induction reports generalizing n t with
  | nil => rfl
  | cons told rest ih => cases told <;> exact ih _ _

/-- What the store shares with a value that each completed rule changes is kept by all reports. -/
theorem takeAll_kept {α : Type} (Share : τ → α → Prop) (keep : α → Text → α)
    (step : ∀ t a category, Share t a → Share (accumulate store category t).2 (keep a category))
    (n : Notice) (reports : List Report) {t : τ} {a : α} (share : Share t a) :
    Share (n.takeAll store reports t).2 ((reports.filterMap Report.category?).foldl keep a) := by
  induction reports generalizing n t a with
  | nil => exact share
  | cons told rest ih =>
    cases told with
    | completed category total => exact ih _ (step _ _ _ share)
    | failed => exact ih _ share

theorem held_takeAll (held : τ → Tally) (keep : Tally → Text → Tally)
    (step : ∀ category t, held (accumulate store category t).2 = keep (held t) category)
    (n : Notice) (reports : List Report) (t : τ) :
    held (n.takeAll store reports t).2 =
      (reports.filterMap Report.category?).foldl keep (held t) :=
  takeAll_kept store (fun t a => held t = a) keep
    (fun t _ category same => same ▸ step category t) n reports rfl

end Notice

namespace Engine

variable {σ τ : Type}

/-- What passes over pending rules come to for a user. The badge, the number of failures, the
passes, the engine and the page are the same with any store. A working store has counted each
completed rule once more, up to the largest number; a broken one is as before. -/
theorem playTelling_totals {rules : List Rule} (pending : ∀ r ∈ rules, r.completed = false) (s : σ)
    (os : List (Occasion σ)) (store : TallyStore (StateM τ)) (held : τ → Tally) (t : τ) :
    ∃ (x : Played σ) (n : Notice) (u : τ), x = (ofRules rules).play s os ∧
      playTelling store .empty (ofRules rules) s os t = ((x, n), u) ∧
      n.badge = x.engine.counts.total ∧
      ((∀ r ∈ x.engine.rules, r.completed = false) → n.badge = 0) ∧
      n.failures = x.passes.countP (fun p => p.error.isSome) ∧
      (store.Working held → ∀ category, (held u).get category =
        min ((held t).get category + x.engine.rules.countP (Rule.countsFor category))
          Text.maxWord32) ∧
      (store.Broken held → held u = held t) ∧
      ∀ {υ : Type} (other : TallyStore (StateM υ)) (v : υ),
        (playTelling other .empty (ofRules rules) s os v).1 = (x, n) := by
  have told : ∀ {υ : Type} (other : TallyStore (StateM υ)) (v : υ),
      playTelling other .empty (ofRules rules) s os v =
        (((ofRules rules).play s os,
            ((ofRules rules).play s os).reports.foldl Notice.hear .empty),
          (Notice.empty.takeAll other ((ofRules rules).play s os).reports v).2) := by
    intro υ other v
    rw [playTelling_eq, ← Notice.fst_takeAll other _ _ v]
    rfl
  have badge := badge_play (ofRules rules) s os (n := .empty) rfl
  refine ⟨_, _, _, rfl, told store t, badge, ?_, ?_, ?_, ?_, fun other v => by rw [told]⟩
  · exact fun left => badge.trans (total_play_of_pending pending left)
  · rw [Notice.failures_foldl_hear, countP_failed_play]
    exact Nat.zero_add _
  · intro working category
    rw [Notice.held_takeAll store held Tally.increment working.held_accumulate,
      ← count_category?_reports_play pending s os category]
    exact Tally.get_countAll _ _ _
  · intro broken
    rw [Notice.held_takeAll store held (fun t _ => t) broken.held_accumulate]
    exact List.foldl_fixed _

/-- `dismissal` is completed by a pass that is aborted. Its category cannot be counted more often in
one store, and the other cannot be read. -/
theorem playTelling_totals_dismissal :
    (∀ r ∈ [dismissal], r.completed = false) ∧
      TallyStore.memory.Working id ∧ TallyStore.unreadable.Broken id ∧
      ∃ (x : Played Unit) (t : Tally),
        playTelling .memory .empty (ofRules [dismissal]) () [⟨mutePage.host, id⟩]
          (Tally.empty.put dismissal.category Text.maxWord32) = ((x, ⟨1, 1⟩), t) ∧
        t.get dismissal.category = Text.maxWord32 ∧
        playTelling .unreadable .empty (ofRules [dismissal]) () [⟨mutePage.host, id⟩] .empty =
          ((x, ⟨1, 1⟩), .empty) := by
  have pending : ∀ r ∈ [dismissal], r.completed = false := by decide
  obtain ⟨x, n, t, -, run, -, -, -, counted, -, alike⟩ := playTelling_totals pending ()
    [⟨mutePage.host, id⟩] .memory id (Tally.empty.put dismissal.category Text.maxWord32)
  obtain ⟨y, k, u, -, run', -, -, -, -, same, -⟩ :=
    playTelling_totals pending () [⟨mutePage.host, id⟩] .unreadable id .empty
  obtain rfl : u = .empty := same TallyStore.broken_unreadable
  have shown : n = ⟨1, 1⟩ := (congrArg (fun r => r.1.2) run).symm.trans (by decide +kernel)
  have both : (y, k) = (x, n) := (congrArg Prod.fst run').symm.trans (alike .unreadable .empty)
  have full := counted TallyStore.working_memory dismissal.category
  refine ⟨pending, TallyStore.working_memory, TallyStore.broken_unreadable, x, t, ?_, ?_, ?_⟩
  · rw [run, shown]
  · have limit : (Tally.empty.put dismissal.category Text.maxWord32).get dismissal.category =
        Text.maxWord32 := by decide +kernel
    rw [id_eq, id_eq, limit] at full
    omega
  · rw [run', both, shown]

end Engine

end Declutter
