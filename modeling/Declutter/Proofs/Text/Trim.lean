import Declutter.Text.Blank
import Mathlib.Data.List.DropRight

namespace Declutter.Text

theorem dropEndWhile_eq_rdropWhile (p : Char → Bool) (t : Text) :
    dropEndWhile p t = t.rdropWhile p := by
  have head : ∀ c : Char, ∀ t : Text, (c :: t).rdropWhile p =
      if t.rdropWhile p = [] then if p c then [] else [c] else c :: t.rdropWhile p := by
    intro c t
    simp only [List.rdropWhile, List.reverse_cons, List.dropWhile_append, List.reverse_eq_nil_iff]
    by_cases none : t.reverse.dropWhile p = []
    · by_cases h : p c <;> simp [none, h]
    · simp [none]
  induction t with
  | nil => rfl
  | cons c rest ih =>
    rw [head, dropEndWhile, ← ih]
    cases dropEndWhile p rest <;> simp

/-- What is dropped at the end is of the kind that is to be dropped. -/
theorem exists_dropEndWhile (p : Char → Bool) (t : Text) :
    ∃ tail : Text, (∀ c ∈ tail, p c = true) ∧ dropEndWhile p t ++ tail = t := by
  refine ⟨t.rtakeWhile p, fun c hc => List.mem_rtakeWhile_imp hc, ?_⟩
  rw [dropEndWhile_eq_rdropWhile, List.rdropWhile_append_rtakeWhile]

/-- What trimming drops at the end is blank. -/
theorem exists_trimEnd (t : Text) :
    ∃ tail : Text, (∀ c ∈ tail, isBlank c = true) ∧ trimEnd t ++ tail = t :=
  exists_dropEndWhile isBlank t

/-- What trimming drops at the front is blank. -/
theorem exists_trimStart (t : Text) :
    ∃ lead : Text, (∀ c ∈ lead, isBlank c = true) ∧ lead ++ trimStart t = t :=
  ⟨t.takeWhile isBlank, fun _ hc => List.mem_takeWhile_imp hc, List.takeWhile_append_dropWhile⟩

theorem trimEnd_trimEnd (t : Text) : trimEnd (trimEnd t) = trimEnd t := by
  simp only [trimEnd, dropEndWhile_eq_rdropWhile, List.rdropWhile_idempotent]

theorem dropEndWhile_append_of_all {p : Char → Bool} {tail : Text} (h : ∀ c ∈ tail, p c = true)
    (t : Text) : dropEndWhile p (t ++ tail) = dropEndWhile p t := by
  have reversed : ∀ c ∈ tail.reverse, p c = true := fun c hc => h c (List.mem_reverse.mp hc)
  simp only [dropEndWhile_eq_rdropWhile, List.rdropWhile, List.reverse_append,
    List.dropWhile_append_of_pos reversed]

theorem dropEndWhile_append_cons {p : Char → Bool} {c : Char} (hc : p c = false) (s t : Text) :
    dropEndWhile p (s ++ c :: t) = s ++ c :: dropEndWhile p t := by
  have last : (t.reverse.dropWhile p ++ c :: s.reverse) =
      (t.reverse ++ c :: s.reverse).dropWhile p := by
    rw [List.dropWhile_append]
    by_cases none : t.reverse.dropWhile p = []
    · simp [none, hc]
    · simp [none]
  simp only [dropEndWhile_eq_rdropWhile, List.rdropWhile, List.reverse_append,
    List.reverse_cons, List.append_assoc, List.singleton_append, ← last]
  simp

theorem trimEnd_append_cons {c : Char} (hc : isBlank c = false) (s t : Text) :
    trimEnd (s ++ c :: t) = s ++ c :: trimEnd t :=
  dropEndWhile_append_cons hc s t

theorem trimStart_append_of_blank {lead : Text} (blank : ∀ c ∈ lead, isBlank c = true) (t : Text) :
    trimStart (lead ++ t) = trimStart t :=
  List.dropWhile_append_of_pos blank

theorem trim_append_of_blank {lead : Text} (blank : ∀ c ∈ lead, isBlank c = true) (t : Text) :
    trim (lead ++ t) = trim t := by
  rw [trim, trimStart_append_of_blank blank, trim]

theorem trimStart_eq_nil {t : Text} (blank : ∀ c ∈ t, isBlank c = true) : trimStart t = [] :=
  List.dropWhile_eq_nil_iff.mpr blank

theorem trim_append_of_blank_tail {tail : Text} (blank : ∀ c ∈ tail, isBlank c = true) (t : Text) :
    trim (t ++ tail) = trim t := by
  unfold trim
  by_cases none : trimStart t = []
  · have bare : trimStart (t ++ tail) = [] := by
      refine trimStart_eq_nil fun c hc => (List.mem_append.mp hc).elim (fun hc => ?_) (blank c)
      exact List.dropWhile_eq_nil_iff.mp none c hc
    rw [bare, none]
  · have kept : trimStart (t ++ tail) = trimStart t ++ tail := by
      unfold trimStart at none ⊢
      rw [List.dropWhile_append, if_neg (mt List.isEmpty_iff.mp none)]
    rw [kept]
    exact dropEndWhile_append_of_all blank _

theorem trimStart_append_cons {c : Char} (hc : isBlank c = false) (s t : Text) :
    trimStart (s ++ c :: t) = trimStart s ++ c :: t := by
  rw [trimStart, List.dropWhile_append]
  by_cases none : s.dropWhile isBlank = []
  · simp [trimStart, none, hc]
  · simp [trimStart, none]

theorem trim_append_cons {c : Char} (hc : isBlank c = false) (s t : Text) :
    trim (s ++ c :: t) = trimStart s ++ c :: trimEnd t := by
  rw [trim, trimStart_append_cons hc, trimEnd_append_cons hc]

theorem trim_trim (t : Text) : trim (trim t) = trim t := by
  unfold trim
  have kept : trimStart (trimEnd (trimStart t)) = trimEnd (trimStart t) := by
    cases h : trimStart t with
    | nil => rfl
    | cons c rest =>
      have hc : isBlank c = false := by
        have first := List.head?_dropWhile_not isBlank t
        rw [show t.dropWhile isBlank = c :: rest from h] at first
        simpa using first
      have led : trimEnd (c :: rest) = c :: trimEnd rest := trimEnd_append_cons hc [] rest
      rw [led]
      exact trimStart_append_cons hc [] (trimEnd rest)
  rw [kept, trimEnd_trimEnd]

theorem mem_of_mem_trimStart {t : Text} {c : Char} (h : c ∈ trimStart t) : c ∈ t :=
  (List.dropWhile_sublist isBlank).mem h

theorem mem_of_mem_trim {t : Text} {c : Char} (h : c ∈ trim t) : c ∈ t := by
  obtain ⟨tail, -, whole⟩ := exists_trimEnd (trimStart t)
  refine mem_of_mem_trimStart ?_
  rw [← whole]
  exact List.mem_append_left tail h

end Declutter.Text
