import Declutter.Rule.Expression
import Mathlib.Data.List.Basic

namespace Declutter.Lexeme

def Free (t : Text) : Prop :=
  ∀ c ∈ t, c ≠ '\'' ∧ c ≠ '(' ∧ c ≠ ')'

/-- The characters of a text that stand outside its quotes. -/
def outside : (inQuote : Bool) → Text → Text
  | _, [] => []
  | true, c :: rest => outside (c != '\'') rest
  | false, c :: rest => if c = '\'' then outside true rest else c :: outside false rest

theorem outside_quote (inQuote : Bool) (rest : Text) :
    outside inQuote ('\'' :: rest) = outside (!inQuote) rest := by
  cases inQuote <;> simp [outside]

theorem outside_quoted {c : Char} (hc : c ≠ '\'') (rest : Text) :
    outside true (c :: rest) = outside true rest := by
  have ht : (c != '\'') = true := by simpa using hc
  rw [outside, ht]

theorem outside_unquoted {c : Char} (hc : c ≠ '\'') (rest : Text) :
    outside false (c :: rest) = c :: outside false rest := by
  rw [outside, if_neg hc]

/-- An argument of a call: its quotes come in pairs, and among the parentheses outside them none
closes the call, while each that it opens is closed again. -/
structure Balanced (a : Text) : Prop where
  paired : a.count '\'' % 2 = 0
  inner : ∀ b, b <+: a → (outside false b).count ')' ≤ (outside false b).count '('
  closed : (outside false a).count ')' = (outside false a).count '('

/-- The open parentheses and the open quote behind a text inside a call, unless the call ends
in it. -/
def within : (depth : Nat) → (inQuote : Bool) → Text → Option (Nat × Bool)
  | depth, inQuote, [] => some (depth, inQuote)
  | depth, true, c :: rest => within depth (c != '\'') rest
  | depth, false, c :: rest =>
    if c = ')' then if depth = 0 then none else within (depth - 1) false rest
    else within (if c = '(' then depth + 1 else depth) (c = '\'') rest

theorem within_quote (depth : Nat) (inQuote : Bool) (rest : Text) :
    within depth inQuote ('\'' :: rest) = within depth (!inQuote) rest := by
  cases inQuote <;> simp [within]

theorem within_quoted (depth : Nat) {c : Char} (hc : c ≠ '\'') (rest : Text) :
    within depth true (c :: rest) = within depth true rest := by
  have ht : (c != '\'') = true := by simpa using hc
  rw [within, ht]

theorem within_open (depth : Nat) (rest : Text) :
    within depth false ('(' :: rest) = within (depth + 1) false rest := by
  simp [within]

theorem within_close (depth : Nat) (rest : Text) :
    within (depth + 1) false (')' :: rest) = within depth false rest := by
  simp [within]

theorem within_end (rest : Text) : within 0 false (')' :: rest) = none := by
  simp [within]

theorem within_other (depth : Nat) {c : Char} (hq : c ≠ '\'') (ho : c ≠ '(') (hc : c ≠ ')')
    (rest : Text) : within depth false (c :: rest) = within depth false rest := by
  simp [within, hq, ho, hc]

theorem within_append (depth : Nat) (inQuote : Bool) (a b : Text) :
    within depth inQuote (a ++ b) =
      (within depth inQuote a).bind fun s => within s.1 s.2 b := by
  induction a generalizing depth inQuote with
  | nil => cases inQuote <;> simp [within]
  | cons c rest ih =>
    cases inQuote with
    | true => simp only [List.cons_append, within, ih]
    | false =>
      simp only [List.cons_append, within, ih]
      split
      · split
        · rfl
        · rfl
      · rfl

theorem forall_prefix_cons {P : Text → Prop} {c : Char} {a : Text} :
    (∀ b, b <+: c :: a → P b) ↔ P [] ∧ ∀ b, b <+: a → P (c :: b) := by
  constructor
  · intro h
    refine ⟨h [] List.nil_prefix, fun b hb => h (c :: b) ?_⟩
    exact List.cons_prefix_cons.mpr ⟨rfl, hb⟩
  · rintro ⟨hn, hc⟩ b hb
    rcases List.prefix_cons_iff.mp hb with rfl | ⟨t, rfl, ht⟩
    · exact hn
    · exact hc t ht

/-- Inside a call, the scan counts the parentheses outside quotes and whether the number of quotes
is odd, as long as no prefix closes more than is open. -/
theorem within_eq_some_iff {depth level : Nat} {inQuote quoted : Bool} {a : Text} :
    within depth inQuote a = some (level, quoted) ↔
      (∀ b, b <+: a →
        (outside inQuote b).count ')' ≤ depth + (outside inQuote b).count '(') ∧
      depth + (outside inQuote a).count '(' = level + (outside inQuote a).count ')' ∧
      (inQuote.toNat + a.count '\'') % 2 = quoted.toNat := by
  induction a generalizing depth inQuote with
  | nil =>
    cases inQuote <;> cases quoted <;> simp [within, outside]
  | cons c rest ih =>
    rw [forall_prefix_cons]
    by_cases hq : c = '\''
    · subst hq
      have flip : ((!inQuote).toNat + rest.count '\'') % 2 =
          (inQuote.toNat + (rest.count '\'' + 1)) % 2 := by
        cases inQuote with
        | true =>
          simp only [Bool.not_true, Bool.toNat_false, Bool.toNat_true]
          omega
        | false =>
          simp only [Bool.not_false, Bool.toNat_false, Bool.toNat_true]
          omega
      simp only [within_quote, outside_quote, ih, flip, List.count_cons_self]
      simp [outside]
    · cases inQuote with
      | true =>
        simp only [within_quoted _ hq, outside_quoted hq, ih, List.count_cons_of_ne hq]
        simp [outside]
      | false =>
        simp only [outside_unquoted hq, List.count_cons_of_ne hq]
        by_cases ho : c = '('
        · subst ho
          simp only [within_open, ih, List.count_cons_self,
            List.count_cons_of_ne (show '(' ≠ ')' by decide)]
          simp [outside, Nat.add_assoc, Nat.add_comm]
        · by_cases hc : c = ')'
          · subst hc
            simp only [List.count_cons_self, List.count_cons_of_ne (show ')' ≠ '(' by decide)]
            cases depth with
            | zero =>
              rw [within_end]
              constructor
              · intro h
                cases h
              · rintro ⟨⟨_, inner⟩, _⟩
                have first := inner [] List.nil_prefix
                simp [outside] at first
            | succ depth =>
              rw [within_close, ih]
              refine and_congr ?_ (and_congr ?_ Iff.rfl)
              · constructor
                · intro h
                  refine ⟨by simp [outside], fun b hb => ?_⟩
                  have := h b hb
                  omega
                · intro h b hb
                  have := h.2 b hb
                  omega
              · omega
          · simp only [within_other _ hq ho hc, ih, List.count_cons_of_ne ho,
              List.count_cons_of_ne hc]
            simp [outside]

theorem balanced_iff {a : Text} : Balanced a ↔ within 0 false a = some (0, false) := by
  simp only [within_eq_some_iff, Nat.zero_add, Bool.toNat_false]
  constructor
  · intro h
    exact ⟨h.inner, h.closed.symm, h.paired⟩
  · rintro ⟨inner, closed, paired⟩
    exact ⟨paired, inner, closed.symm⟩

/-- What the parts of an expression are. -/
inductive Parts : Text → List Lexeme → Prop
  | free {p : Text} (free : Free p) : Parts p [.plain p]
  | quoted {p q rest : Text} {parts : List Lexeme} (free : Free p) (closed : '\'' ∉ q)
      (onward : Parts rest parts) :
      Parts (p ++ '\'' :: q ++ '\'' :: rest) (.plain p :: .quoted q :: parts)
  | openQuote {p q : Text} (free : Free p) (unclosed : '\'' ∉ q) :
      Parts (p ++ '\'' :: q) [.plain p, .openQuote]
  | call {p a rest : Text} {parts : List Lexeme} (free : Free p) (closed : Balanced a)
      (onward : Parts rest parts) :
      Parts (p ++ '(' :: a ++ ')' :: rest) (.call p a :: parts)
  | openCall {p a : Text} {depth : Nat} (free : Free p)
      (unclosed : within 0 false a = some (depth, false)) :
      Parts (p ++ '(' :: a) [.plain (p ++ '(' :: a)]
  | openArgument {p a : Text} {depth : Nat} (free : Free p)
      (unclosed : within 0 false a = some (depth, true)) :
      Parts (p ++ '(' :: a) [.openQuote]
  | strayClose {p rest : Text} (free : Free p) : Parts (p ++ ')' :: rest) [.strayClose]

theorem cut_plain_append {p : Text} (free : Free p) (t rest : Text) :
    cut (.plain t) (p ++ rest) = cut (.plain (t ++ p)) rest := by
  induction p generalizing t with
  | nil => simp
  | cons c p ih =>
    obtain ⟨⟨hq, ho, hc⟩, hp⟩ := List.forall_mem_cons.mp free
    rw [List.cons_append, cut, if_neg hq, if_neg ho, if_neg hc, ih hp, List.append_assoc]
    rfl

theorem cut_quotation_append {q : Text} (unclosed : '\'' ∉ q) (t rest : Text) :
    cut (.quotation t) (q ++ rest) = cut (.quotation (t ++ q)) rest := by
  induction q generalizing t with
  | nil => simp
  | cons c q ih =>
    have hc : c ≠ '\'' := fun he => unclosed (by simp [he])
    have hq : '\'' ∉ q := fun hm => unclosed (List.mem_cons_of_mem c hm)
    rw [List.cons_append, cut, if_neg hc, ih hq, List.append_assoc]
    rfl

/-- A call is read up to what does not yet end it. -/
theorem cut_argument_append {depth level : Nat} {inQuote quoted : Bool} {a : Text}
    (inside : within depth inQuote a = some (level, quoted)) (name t rest : Text) :
    cut (.argument name depth inQuote t) (a ++ rest) =
      cut (.argument name level quoted (t ++ a)) rest := by
  induction a generalizing depth inQuote t with
  | nil =>
    cases inside
    simp
  | cons c a ih =>
    cases inQuote with
    | true =>
      rw [within] at inside
      rw [List.cons_append, cut, ih inside, List.append_assoc]
      rfl
    | false =>
      rw [within] at inside
      rw [List.cons_append, cut]
      by_cases hc : c = ')'
      · rw [if_pos hc] at inside ⊢
        by_cases hd : depth = 0
        · rw [if_pos hd] at inside
          cases inside
        · rw [if_neg hd] at inside ⊢
          rw [ih inside, List.append_assoc]
          rfl
      · rw [if_neg hc] at inside ⊢
        rw [ih inside, List.append_assoc]
        rfl

theorem Parts.eq_cut {t : Text} {parts : List Lexeme} (h : Parts t parts) :
    cut (.plain []) t = parts := by
  induction h with
  | @free p free =>
    have read := cut_plain_append free [] []
    rwa [List.append_nil, List.nil_append, cut] at read
  | quoted free closed _ ih =>
    rw [List.append_assoc, cut_plain_append free, List.cons_append, cut, if_pos rfl,
      cut_quotation_append closed, cut, if_pos rfl, ih]
    rfl
  | @openQuote p q free unclosed =>
    have read := cut_quotation_append unclosed [] []
    rw [List.append_nil] at read
    rw [cut_plain_append free, cut, if_pos rfl, read, cut]
    rfl
  | call free closed _ ih =>
    rw [List.append_assoc, cut_plain_append free, List.cons_append, cut, if_neg (by decide),
      if_pos rfl, cut_argument_append (balanced_iff.mp closed), cut, if_pos rfl, if_pos rfl, ih]
    rfl
  | @openCall p a depth free unclosed =>
    have read := cut_argument_append unclosed p [] []
    rw [List.append_nil] at read
    rw [cut_plain_append free, cut, if_neg (by decide), if_pos rfl, List.nil_append, read, cut]
    rfl
  | @openArgument p a depth free unclosed =>
    have read := cut_argument_append unclosed p [] []
    rw [List.append_nil] at read
    rw [cut_plain_append free, cut, if_neg (by decide), if_pos rfl, List.nil_append, read, cut]
  | strayClose free =>
    rw [cut_plain_append free, cut, if_neg (by decide), if_neg (by decide), if_pos rfl]

/-- A reading in progress has its parts in what it has read and the rest. -/
def Reading.Continues (rest : Text) : Reading → Prop
  | .plain t => Free t → Parts (t ++ rest) (cut (.plain t) rest)
  | .quotation t => ∀ p, Free p → '\'' ∉ t →
    Parts (p ++ '\'' :: t ++ rest) (.plain p :: cut (.quotation t) rest)
  | .argument name depth inQuote t => Free name → within 0 false t = some (depth, inQuote) →
    Parts (name ++ '(' :: t ++ rest) (cut (.argument name depth inQuote t) rest)

theorem Free.concat {t : Text} (free : Free t) {c : Char} (hq : c ≠ '\'') (ho : c ≠ '(')
    (hc : c ≠ ')') : Free (t ++ [c]) := by
  intro d hd
  rcases List.mem_append.mp hd with hd | hd
  · exact free d hd
  · rw [List.mem_singleton.mp hd]
    exact ⟨hq, ho, hc⟩

theorem Reading.continues (s : Reading) (rest : Text) : s.Continues rest := by
  induction s, rest using cut.induct with
  | case1 t =>
    intro free
    rw [List.append_nil, cut]
    exact .free free
  | case2 t =>
    intro p free unclosed
    rw [List.append_nil, cut]
    exact .openQuote free unclosed
  | case3 name depth t =>
    intro free inside
    rw [List.append_nil, cut]
    exact .openArgument free inside
  | case4 name depth t =>
    intro free inside
    rw [List.append_nil, cut]
    exact .openCall free inside
  | case5 t rest ih =>
    intro free
    rw [cut, if_pos rfl]
    simpa using ih t free (by simp)
  | case6 t rest _ ih =>
    intro free
    rw [cut, if_neg (by decide), if_pos rfl]
    simpa using ih free rfl
  | case7 t rest =>
    intro free
    rw [cut, if_neg (by decide), if_neg (by decide), if_pos rfl]
    exact .strayClose free
  | case8 t c rest hq ho hc ih =>
    intro free
    rw [cut, if_neg hq, if_neg ho, if_neg hc]
    simpa using ih (free.concat hq ho hc)
  | case9 t rest ih =>
    intro p free closed
    rw [cut, if_pos rfl]
    exact .quoted free closed (ih (by simp [Free]))
  | case10 t c rest hc ih =>
    intro p free unclosed
    rw [cut, if_neg hc]
    simpa using ih p free (by simp [unclosed, Ne.symm hc])
  | case11 name depth t c rest ih =>
    intro free inside
    rw [cut]
    simpa using ih free (by simp [within_append, inside, within])
  | case12 name t rest ih =>
    intro free inside
    rw [cut, if_pos rfl, if_pos rfl]
    exact .call free (balanced_iff.mpr inside) (ih (by simp [Free]))
  | case13 name depth t rest hd ih =>
    intro free inside
    rw [cut, if_pos rfl, if_neg hd]
    simpa using ih free (by simp [within_append, inside, within, hd])
  | case14 name depth t c rest hc ih =>
    intro free inside
    rw [cut, if_neg hc]
    simpa using ih free (by simp [within_append, inside, within, hc])

theorem parts_iff {t : Text} {parts : List Lexeme} :
    Parts t parts ↔ cut (.plain []) t = parts := by
  constructor
  · exact Parts.eq_cut
  · rintro rfl
    exact Reading.continues (.plain []) t (by simp [Free])

end Declutter.Lexeme
