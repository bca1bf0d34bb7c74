import Declutter.Selector.Reader

namespace Declutter.Css

/-- A name that stands in a selector without escapes. -/
structure IsName (t : Text) : Prop where
  starts : startsName t = true
  name : ∀ c ∈ t, isNameChar c = true
  defined : '\x00' ∉ t

theorem ne_of_isNameChar {c d : Char} (hc : isNameChar c = true) (hd : isNameChar d = false) :
    c ≠ d := by
  rintro rfl
  rw [hc] at hd
  cases hd

/-- All of a name is read as one. -/
theorem name_of_isNameChar {steps : Nat} {t : Text} (h : ∀ c ∈ t, isNameChar c = true)
    (defined : '\x00' ∉ t) (long : t.length < steps) : name steps t = (t, []) := by
  induction t generalizing steps with
  | nil =>
    cases steps with
    | zero => simp at long
    | succ steps => rfl
  | cons c t ih =>
    cases steps with
    | zero => simp at long
    | succ steps =>
      obtain ⟨hc, ht⟩ := List.forall_mem_cons.mp h
      simp only [List.mem_cons, not_or] at defined
      have hrest := ih ht defined.2 (Nat.lt_of_succ_lt_succ long)
      unfold name
      split
      next => contradiction
      next he => cases he
      next he => exact absurd (List.cons.inj he).1 (ne_of_isNameChar hc (by decide))
      next hs he =>
        cases hs
        cases he
        rw [if_pos hc, hrest, if_neg (Ne.symm defined.1)]

theorem first_dot {c : Char} {t : Text} (h : Text.isAsciiDigit c = false) :
    first ('.' :: c :: t) = (some (.delim '.'), c :: t) := by
  have hnumber : startsNumber ('.' :: c :: t) = false := h
  have hname : startsName ('.' :: c :: t) = false := rfl
  unfold first
  split
  case h_18 he =>
    cases he
    simp [hnumber, hname, isSpace, isNewline]
  all_goals simp_all

theorem isAsciiDigit_of_isNameStart {c : Char} (h : isNameStart c = true) :
    Text.isAsciiDigit c = false := by
  rw [← Bool.not_eq_true]
  intro hd
  simp only [Text.isAsciiDigit, Bool.and_eq_true, decide_eq_true_eq, Char.le_def,
    UInt32.le_iff_toNat_le] at hd
  have hlow : 48 ≤ c.toNat := hd.1
  have hhigh : c.toNat ≤ 57 := hd.2
  simp only [isNameStart, Text.isAsciiLetter, Text.isAscii, Bool.or_eq_true, Bool.and_eq_true,
    decide_eq_true_eq, beq_iff_eq, Bool.not_eq_true', decide_eq_false_iff_not, Char.le_def,
    UInt32.le_iff_toNat_le] at h
  rcases h with (((h | h) | rfl) | rfl) | h
  · have : 97 ≤ c.toNat := h.1
    omega
  · have : 65 ≤ c.toNat := h.1
    omega
  · exact absurd hhigh (by decide)
  · exact absurd hlow (by decide)
  · omega

/-- What begins an identifier of name characters is no number. -/
theorem startsNumber_of_startsName {c : Char} {t : Text} (h : startsName (c :: t) = true)
    (hc : c ≠ '\\') : Text.isAsciiDigit c = false ∧ startsNumber (c :: t) = false := by
  unfold startsName at h
  split at h
  next he => exact absurd (List.cons.inj he).1 hc
  next he => exact absurd (List.cons.inj he).1 hc
  next he =>
    cases he
    exact ⟨rfl, rfl⟩
  next d _ _ he =>
    cases he
    have hd : Text.isAsciiDigit d = false ∧ d ≠ '.' := by
      rcases Bool.or_eq_true_iff.mp h with h | h
      · refine ⟨isAsciiDigit_of_isNameStart h, ?_⟩
        rintro rfl
        cases h
      · rw [beq_iff_eq.mp h]
        decide
    exact ⟨rfl, by simp [startsNumber, hd.1, hd.2]⟩
  next he =>
    cases he
    have hd := isAsciiDigit_of_isNameStart h
    refine ⟨hd, ?_⟩
    unfold startsNumber
    split
    case h_4 he =>
      cases he
      exact hd
    all_goals
      rename_i he
      cases he
    all_goals cases h
  next => cases h

theorem identLike_name {t : Text} (h : IsName t) : identLike t = (.ident t, []) := by
  rw [identLike, name_of_isNameChar h.name h.defined (Nat.lt_succ_self _)]

theorem first_name {c : Char} {t : Text} (h : IsName (c :: t)) :
    first (c :: t) = (some (.ident (c :: t)), []) := by
  obtain ⟨hc, ht⟩ := List.forall_mem_cons.mp h.name
  have hne := fun d (hd : isNameChar d = false) => ne_of_isNameChar hc hd
  have hnumber := (startsNumber_of_startsName h.starts (hne '\\' (by decide))).2
  unfold first
  split
  case h_18 he =>
    cases he
    have hspace : isSpace c = false := by
      simp [isSpace, isNewline, hne ' ' (by decide), hne '\t' (by decide), hne '\n' (by decide),
        hne '\r' (by decide), hne '\x0c' (by decide)]
    simp [hspace, hne ')' (by decide), hne ']' (by decide), hne '\x7d' (by decide),
      hne '"' (by decide), hne '\'' (by decide), hnumber, h.starts, identLike_name h]
  case h_1 he => cases he
  case h_9 he =>
    cases he
    exact absurd (ht '>' (by simp)) (by decide)
  all_goals
    rename_i he
    exact absurd (List.cons.inj he).1 (hne _ (by decide))

theorem tokens_class {t : Text} (h : IsName t) : tokens ('.' :: t) = [.delim '.', .ident t] := by
  cases t with
  | nil => cases h.starts
  | cons c t =>
    have hne := ne_of_isNameChar (d := '\\') (h.name c (by simp)) (by decide)
    have hdigit := (startsNumber_of_startsName h.starts hne).1
    simp [tokens, tokensFrom, first_dot hdigit, first_name h]

end Declutter.Css

namespace Declutter.Selector

/-- A dot with a name is the selector for a class. -/
theorem read?_class {c : Text} (h : Css.IsName c) : read? ('.' :: c) = some (.cssClass c) := by
  rw [read?, Css.tokens_class h]
  rfl

end Declutter.Selector
