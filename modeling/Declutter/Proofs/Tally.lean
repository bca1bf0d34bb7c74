import Declutter.Tally
import Declutter.Proofs.Keyed
import Mathlib.Algebra.Order.BigOperators.Group.List
import Mathlib.Algebra.Order.Group.Nat
import Mathlib.Algebra.Ring.Nat

namespace Declutter

namespace Keyed

variable {κ : Type} [KeyOrder κ] [DecidableEq κ]

/-- A new value takes the place of the old one in the sum over a sorted table. -/
theorem sum_putEntry {key : κ} {value : Nat} {entries : List (κ × Nat)}
    (sorted : entries.Pairwise fun a b => KeyOrder.before a.1 b.1) :
    ((putEntry key value entries).map Prod.snd).sum + (entries.lookup key).getD 0 =
      (entries.map Prod.snd).sum + value := by
  induction entries with
  | nil => simp [putEntry]
  | cons e rest ih =>
    obtain ⟨k, v⟩ := e
    obtain ⟨hk, hr⟩ := List.pairwise_cons.mp sorted
    unfold putEntry
    split
    next he =>
      subst he
      simp only [List.map_cons, List.sum_cons, List.lookup_cons_self, Option.getD_some]
      omega
    next hne =>
      have hb : (key == k) = false := beq_eq_false_iff_ne.mpr (Ne.symm hne)
      split
      next hbefore =>
        have hn : rest.lookup key = none :=
          lookup_eq_none_of_notMem fun e he =>
            Ne.symm (ne_of_before (KeyOrder.trans hbefore (hk e he)))
        simp only [List.lookup_cons, hb, hn, List.map_cons, List.sum_cons, Option.getD_none]
        omega
      next =>
        have hh := ih hr
        simp only [List.lookup_cons, hb, List.map_cons, List.sum_cons]
        omega

theorem sum_put (key : κ) (value : Nat) (t : Keyed κ Nat) :
    ((t.put key value).entries.map Prod.snd).sum + (t.get? key).getD 0 =
      (t.entries.map Prod.snd).sum + value :=
  sum_putEntry t.sorted

end Keyed

namespace Text

/-- A sum that is held at a limit on the way ends at the sum held at the limit. -/
theorem foldl_addUpTo {α : Type} (limit : Nat) (f : α → Nat) (xs : List α) {start : Nat}
    (h : start ≤ limit) :
    xs.foldl (fun sum x => addUpTo limit sum (f x)) start =
      min (start + (xs.map f).sum) limit := by
  induction xs generalizing start with
  | nil => simp [h]
  | cons x xs ih =>
    have hle : addUpTo limit start (f x) ≤ limit := Nat.min_le_right _ _
    rw [List.foldl_cons, ih hle, List.map_cons, List.sum_cons]
    unfold addUpTo
    omega

end Text

namespace Tally

theorem get_le (t : Tally) (category : Text) : t.get category ≤ Text.maxWord32 := by
  unfold get
  cases h : t.counts.get? category with
  | none => exact Nat.zero_le _
  | some n => exact t.bounded _ (Keyed.mem_of_get?_eq_some h)

theorem get?_increment (t : Tally) (category other : Text) :
    (t.increment category).counts.get? other =
      if other = category then some (min (t.get category + 1) Text.maxWord32)
      else t.counts.get? other := by
  simp [increment, put]

theorem get_increment (t : Tally) (category other : Text) :
    (t.increment category).get other =
      if other = category then min (t.get category + 1) Text.maxWord32 else t.get other := by
  rw [get, get?_increment]
  split
  · rfl
  · rfl

theorem total_eq (t : Tally) :
    t.total = min (t.counts.entries.map Prod.snd).sum Text.maxWord32 := by
  rw [total, Text.foldl_addUpTo _ _ _ (Nat.zero_le _), Nat.zero_add]

/-- Counting once more raises the total by one, also where the count of the category is held. -/
theorem total_increment (t : Tally) (category : Text) :
    (t.increment category).total = min (t.total + 1) Text.maxWord32 := by
  have hs := t.counts.sum_put category (min (t.get category + 1) Text.maxWord32)
  have hm : t.get category ≤ (t.counts.entries.map Prod.snd).sum := by
    unfold get
    cases h : t.counts.get? category with
    | none => exact Nat.zero_le _
    | some n =>
      exact List.le_sum_of_mem (List.mem_map_of_mem (Keyed.mem_of_get?_eq_some h))
  have hle := t.get_le category
  rw [show (t.counts.get? category).getD 0 = t.get category from rfl] at hs
  have he : (t.increment category).counts =
      t.counts.put category (min (t.get category + 1) Text.maxWord32) := rfl
  rw [total_eq, total_eq, he]
  omega

/-- The tally of a list of categories counted one after the other. -/
def countAll (t : Tally) (categories : List Text) : Tally :=
  categories.foldl increment t

theorem get_countAll (t : Tally) (categories : List Text) (category : Text) :
    (t.countAll categories).get category =
      min (t.get category + categories.count category) Text.maxWord32 := by
  induction categories generalizing t with
  | nil =>
    have := t.get_le category
    simp only [countAll, List.foldl_nil, List.count_nil]
    omega
  | cons c rest ih =>
    have hh := ih (t.increment c)
    rw [get_increment] at hh
    rw [show t.countAll (c :: rest) = (t.increment c).countAll rest from rfl, hh,
      List.count_cons]
    by_cases h : category = c
    · simp only [h, if_true, beq_self_eq_true]
      omega
    · simp only [h, if_false, beq_eq_false_iff_ne.mpr (Ne.symm h), Bool.false_eq_true]
      omega

theorem isSome_get?_countAll (t : Tally) (categories : List Text) (category : Text) :
    ((t.countAll categories).counts.get? category).isSome = true ↔
      (t.counts.get? category).isSome = true ∨ category ∈ categories := by
  induction categories generalizing t with
  | nil => simp [countAll]
  | cons c rest ih =>
    rw [show t.countAll (c :: rest) = (t.increment c).countAll rest from rfl, ih,
      get?_increment, List.mem_cons]
    by_cases h : category = c <;> simp [h]

end Tally

end Declutter
