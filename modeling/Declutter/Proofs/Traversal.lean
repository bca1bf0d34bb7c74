import Mathlib.Data.List.Forall2

namespace Declutter.Traversal

variable {α β ε : Type} {f : α → Except ε β}

theorem mapM_cons_eq_ok_iff {x : α} {xs : List α} {ys : List β} :
    (x :: xs).mapM f = .ok ys ↔ ∃ y zs, f x = .ok y ∧ xs.mapM f = .ok zs ∧ y :: zs = ys := by
  rw [List.mapM_cons]
  rcases f x with _ | y
  · simp [bind, Except.bind]
  · rcases xs.mapM f with _ | zs
    · simp [bind, Except.bind]
    · simp [bind, Except.bind, pure, Except.pure]

/-- A list is mapped without error exactly if each of its members is. -/
theorem mapM_eq_ok_iff {xs : List α} {ys : List β} :
    xs.mapM f = .ok ys ↔ List.Forall₂ (fun x y => f x = .ok y) xs ys := by
  constructor
  · intro h
    induction xs generalizing ys with
    | nil =>
      cases h
      exact .nil
    | cons x xs ih =>
      obtain ⟨y, zs, hy, hz, rfl⟩ := mapM_cons_eq_ok_iff.mp h
      exact .cons hy (ih hz)
  · intro h
    induction h with
    | nil => rfl
    | cons hy _ ih => exact mapM_cons_eq_ok_iff.mpr ⟨_, _, hy, ih, rfl⟩

/-- What succeeds with `f` on each member succeeds with any `g` that succeeds where `f` does. -/
theorem mapM_eq_ok_imp {g : α → Except ε β} (imp : ∀ x y, f x = .ok y → g x = .ok y) {xs : List α}
    {ys : List β} (h : xs.mapM f = .ok ys) : xs.mapM g = .ok ys :=
  mapM_eq_ok_iff.mpr ((mapM_eq_ok_iff.mp h).imp imp)

theorem exists_of_mem_mapM {xs : List α} {ys : List β} (h : xs.mapM f = .ok ys) {y : β}
    (hy : y ∈ ys) : ∃ x ∈ xs, f x = .ok y := by
  induction xs generalizing ys with
  | nil =>
    cases h
    simp at hy
  | cons x xs ih =>
    obtain ⟨z, zs, hz, hr, rfl⟩ := mapM_cons_eq_ok_iff.mp h
    rcases List.mem_cons.mp hy with rfl | hm
    · exact ⟨x, by simp, hz⟩
    · obtain ⟨w, hw, he⟩ := ih hr hm
      exact ⟨w, by simp [hw], he⟩

theorem mapM_cons_eq_error_iff {x : α} {xs : List α} {e : ε} :
    (x :: xs).mapM f = .error e ↔
      f x = .error e ∨ (∃ y, f x = .ok y) ∧ xs.mapM f = .error e := by
  rw [List.mapM_cons]
  rcases f x with _ | y
  · simp [bind, Except.bind]
  · rcases xs.mapM f with _ | zs <;> simp [bind, Except.bind, pure, Except.pure]

/-- A list is mapped to the error of the first of its members that has one. -/
theorem mapM_eq_error_iff {xs : List α} {e : ε} :
    xs.mapM f = .error e ↔ ∃ before x after, xs = before ++ x :: after ∧
      (∀ y ∈ before, ∃ z, f y = .ok z) ∧ f x = .error e := by
  induction xs with
  | nil => simp [pure, Except.pure]
  | cons x xs ih =>
    rw [mapM_cons_eq_error_iff, ih]
    constructor
    · rintro (failed | ⟨here, before, z, after, rfl, well, failed⟩)
      · exact ⟨[], x, xs, rfl, by simp, failed⟩
      · exact ⟨x :: before, z, after, rfl, List.forall_mem_cons.mpr ⟨here, well⟩, failed⟩
    · rintro ⟨_ | ⟨b, before⟩, z, after, split, well, failed⟩
      · cases split
        exact .inl failed
      · cases split
        obtain ⟨here, well⟩ := List.forall_mem_cons.mp well
        exact .inr ⟨here, before, z, after, rfl, well, failed⟩

theorem mapM_map_eq {γ : Type} (f : α → Except ε β) (g : β → γ) (xs : List α) :
    (xs.mapM fun x => (f x).map g) = (xs.mapM f).map (List.map g) := by
  induction xs with
  | nil => rfl
  | cons x xs ih =>
    rw [List.mapM_cons, List.mapM_cons, ih]
    rcases f x with _ | y
    · rfl
    · rcases xs.mapM f with _ | ys <;> rfl

theorem map_eq_ok_iff {g : α → β} {r : Except ε α} {y : β} :
    r.map g = .ok y ↔ ∃ x, r = .ok x ∧ g x = y := by
  cases r <;> simp [Except.map]

theorem map_eq_error_iff {g : α → β} {r : Except ε α} {e : ε} :
    r.map g = .error e ↔ r = .error e := by
  cases r <;> simp [Except.map]

end Declutter.Traversal
