import Declutter.Proofs.Engine.Run
import Declutter.Proofs.Tally

namespace Declutter

def Rule.countsFor (category : Text) (r : Rule) : Bool :=
  r.completed && r.category == category

def Report.isCompletion : Report → Bool
  | .completed _ _ => true
  | .failed _ => false

namespace Tally

/-- What is told while categories are counted one after the other. -/
def announce (t : Tally) : List Text → List Report
  | [] => []
  | c :: rest => .completed c (t.increment c).total :: (t.increment c).announce rest

theorem announce_append (t : Tally) (cs ds : List Text) :
    t.announce (cs ++ ds) = t.announce cs ++ (t.countAll cs).announce ds := by
  induction cs generalizing t with
  | nil => rfl
  | cons c cs ih => simp [announce, ih, countAll]

theorem countAll_append (t : Tally) (cs ds : List Text) :
    t.countAll (cs ++ ds) = (t.countAll cs).countAll ds := by
  simp [countAll]

/-- The announced totals go up by one each time, held at the largest number. -/
theorem announce_getElem? (t : Tally) (cs : List Text) (k : Nat) :
    (t.announce cs)[k]? =
      cs[k]?.map fun c => .completed c (min (t.total + k + 1) Text.maxWord32) := by
  induction cs generalizing t k with
  | nil => simp [announce]
  | cons c cs ih =>
    cases k with
    | zero => simp [announce, total_increment]
    | succ k =>
      have he : min (min (t.total + 1) Text.maxWord32 + k + 1) Text.maxWord32 =
          min (t.total + (k + 1) + 1) Text.maxWord32 := by
        omega
      simpa [announce, total_increment, he] using ih (t.increment c) k

end Tally

namespace Rule

/-- The places of the rules that are completed in one list and were not in another. -/
def newlyCompleted (before after : List Rule) : List Nat :=
  (List.range before.length).filter fun i =>
    !before[i]?.any Rule.completed && after[i]?.any Rule.completed

theorem newlyCompleted_cons (r s : Rule) (before after : List Rule) :
    newlyCompleted (r :: before) (s :: after) =
      (if !r.completed && s.completed then [0] else []) ++
        (newlyCompleted before after).map (· + 1) := by
  unfold newlyCompleted
  rw [List.length_cons, List.range_succ_eq_map, List.filter_cons, List.filter_map]
  cases h : !r.completed && s.completed <;> simp [h, Function.comp_def]

theorem newlyCompleted_self (rules : List Rule) : newlyCompleted rules rules = [] := by
  simp [newlyCompleted]

def categoriesAt (rules : List Rule) (places : List Nat) : List Text :=
  places.filterMap fun i => rules[i]?.map Rule.category

theorem categoriesAt_cons_map_succ (r : Rule) (rules : List Rule) (places : List Nat) :
    categoriesAt (r :: rules) (places.map (· + 1)) = categoriesAt rules places := by
  simp [categoriesAt, List.filterMap_map]

theorem categoriesAt_append (rules : List Rule) (is js : List Nat) :
    categoriesAt rules (is ++ js) = categoriesAt rules is ++ categoriesAt rules js :=
  List.filterMap_append

theorem categoriesAt_congr {rules others : List Rule} (h : rules.map fresh = others.map fresh)
    (places : List Nat) : categoriesAt rules places = categoriesAt others places := by
  have category : ∀ (xs : List Rule) (i : Nat), xs[i]?.map Rule.category =
      (xs.map fresh)[i]?.map Rule.category := by
    intro xs i
    simp [Function.comp_def, fresh]
  have same : ∀ i : Nat, rules[i]?.map Rule.category = others[i]?.map Rule.category := by
    intro i
    rw [category rules, category others, h]
  simp only [categoriesAt, same]

theorem categoriesAt_getElem? {rules : List Rule} {places : List Nat}
    (h : ∀ i ∈ places, i < rules.length) (k : Nat) :
    (categoriesAt rules places)[k]? =
      places[k]?.bind fun i => rules[i]?.map Rule.category := by
  induction places generalizing k with
  | nil => simp [categoriesAt]
  | cons i places ih =>
    have hi : i < rules.length := h i (by simp)
    have hc : categoriesAt rules (i :: places) =
        rules[i].category :: categoriesAt rules places := by
      simp [categoriesAt, hi]
    rw [hc]
    cases k with
    | zero => simp [hi]
    | succ k => simpa using ih (fun j hj => h j (by simp [hj])) k

/-- The categories of the rules that have come to be completed, in the order of the rules. -/
def completions (before after : List Rule) : List Text :=
  categoriesAt before (newlyCompleted before after)

theorem completions_cons (r s : Rule) (before after : List Rule) :
    completions (r :: before) (s :: after) =
      (if !r.completed && s.completed then [r.category] else []) ++ completions before after := by
  rw [completions, newlyCompleted_cons, categoriesAt_append, categoriesAt_cons_map_succ]
  split
  · rfl
  · rfl

theorem completions_self (rules : List Rule) : completions rules rules = [] := by
  rw [completions, newlyCompleted_self]
  rfl

end Rule

namespace Visit

theorem completions_latch (v : Visit) {r : Rule} (pending : r.completed = false)
    (before after : List Rule) :
    Rule.completions (r :: before) (v.latch r :: after) =
      (if v.completes then [r.category] else []) ++ Rule.completions before after := by
  simp [Rule.completions_cons, pending, latch]

theorem count_eq (v : Visit) (r : Rule) (counts : Tally) :
    v.count r counts = counts.countAll (if v.completes then [r.category] else []) := by
  unfold count
  split <;> rfl

theorem news_eq (v : Visit) (r : Rule) (counts : Tally) :
    v.news r counts = counts.announce (if v.completes then [r.category] else []) := by
  unfold news count
  split <;> rfl

end Visit

namespace Tally

theorem filter_isCompletion_announce (t : Tally) (cs : List Text) :
    (t.announce cs).filter Report.isCompletion = t.announce cs := by
  induction cs generalizing t with
  | nil => rfl
  | cons c cs ih =>
    rw [announce, List.filter_cons, ih]
    rfl

end Tally

namespace Pass

variable {σ : Type} {h : Host σ} {s : σ} {counts : Tally} {rules : List Rule} {p : Pass σ}

/-- A pass counts the rules that it completes. -/
theorem Course.counts_eq (c : Course h s counts rules p) :
    p.engine.counts = counts.countAll (Rule.completions rules p.engine.rules) := by
  induction c with
  | done => rfl
  | skip completed onward ih => simpa [Rule.completions_cons, completed] using ih
  | abort pending visit failed =>
    rw [Visit.completions_latch _ pending, Rule.completions_self, List.append_nil,
      Visit.count_eq]
  | visit pending visit well onward ih =>
    rw [Visit.completions_latch _ pending, Tally.countAll_append, ← Visit.count_eq]
    exact ih

/-- A pass tells of the rules that it completes. -/
theorem Course.filter_reports (c : Course h s counts rules p) :
    p.reports.filter Report.isCompletion =
      counts.announce (Rule.completions rules p.engine.rules) := by
  induction c with
  | done => rfl
  | skip completed onward ih => simpa [Rule.completions_cons, completed] using ih
  | abort pending visit failed =>
    rw [Visit.completions_latch _ pending, Rule.completions_self, List.append_nil,
      List.filter_append, Visit.news_eq, Tally.filter_isCompletion_announce]
    simp [Report.isCompletion]
  | visit pending visit well onward ih =>
    rw [Visit.completions_latch _ pending, List.filter_append, Visit.news_eq,
      Tally.filter_isCompletion_announce, ih, Tally.announce_append, ← Visit.count_eq]

/-- Each rule that a pass completes adds one to the completed rules of its category. -/
theorem Course.count_completions (c : Course h s counts rules p) (category : Text) :
    (Rule.completions rules p.engine.rules).count category +
      rules.countP (Rule.countsFor category) =
        p.engine.rules.countP (Rule.countsFor category) := by
  induction c with
  | done => rfl
  | skip completed onward ih =>
    simp only [Rule.completions_cons, completed, Bool.not_true, Bool.false_and,
      Bool.false_eq_true, if_false, List.nil_append, List.countP_cons]
    omega
  | @abort _ _ _ r _ v _ pending visit failed =>
    rw [Visit.completions_latch _ pending, Rule.completions_self, List.append_nil,
      List.countP_cons, List.countP_cons]
    cases hv : v.completes <;>
      simp [Rule.countsFor, Visit.latch, pending, hv, List.count_cons]
    omega
  | @visit _ _ _ r _ v _ pending visit well onward ih =>
    rw [Visit.completions_latch _ pending, List.count_append, List.countP_cons,
      List.countP_cons]
    cases hv : v.completes <;>
      simp [Rule.countsFor, Visit.latch, pending, hv, List.count_cons] at ih ⊢
    · exact ih
    · omega

end Pass

end Declutter
