import Declutter.Text.Basic

namespace Declutter.Text

theorem precedes_irrefl (s : Text) : precedes s s = false := by
  induction s with
  | nil => rfl
  | cons c rest ih => simp [precedes, ih]

theorem precedes_trans {s t u : Text} (h : precedes s t) (k : precedes t u) : precedes s u := by
  induction s generalizing t u with
  | nil =>
    cases u with
    | nil => cases t <;> simp [precedes] at k
    | cons _ _ => rfl
  | cons a s ih =>
    cases t with
    | nil => simp [precedes] at h
    | cons b t =>
      cases u with
      | nil => simp [precedes] at k
      | cons c u =>
        simp only [precedes, Bool.or_eq_true, decide_eq_true_eq, Bool.and_eq_true,
          beq_iff_eq] at h k ⊢
        rcases h with h | ⟨rfl, h⟩
        · rcases k with k | ⟨rfl, _⟩
          · exact Or.inl (UInt32.lt_trans h k)
          · exact Or.inl h
        · rcases k with k | ⟨rfl, k⟩
          · exact Or.inl k
          · exact Or.inr ⟨rfl, ih h k⟩

theorem precedes_total {s t : Text} (h : s ≠ t) (k : ¬ precedes s t) : precedes t s := by
  induction s generalizing t with
  | nil =>
    cases t with
    | nil => exact absurd rfl h
    | cons _ _ => exact absurd rfl k
  | cons a s ih =>
    cases t with
    | nil => rfl
    | cons b t =>
      simp only [precedes, Bool.or_eq_true, decide_eq_true_eq, Bool.and_eq_true, beq_iff_eq,
        not_or, not_and] at k ⊢
      by_cases hab : a = b
      · subst hab
        exact Or.inr ⟨rfl, ih (fun e => h (by rw [e])) (k.2 rfl)⟩
      · have hv : a.val ≠ b.val := fun e => hab (Char.ext e)
        have : a.val.toNat ≠ b.val.toNat := fun e => hv (UInt32.toNat_inj.mp e)
        have hk := k.1
        rw [UInt32.lt_iff_toNat_lt] at hk
        exact Or.inl (UInt32.lt_iff_toNat_lt.mpr (by omega))

end Declutter.Text
