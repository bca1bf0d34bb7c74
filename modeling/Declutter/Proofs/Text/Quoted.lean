import Declutter.Proofs.Text.Numeral
import Declutter.Text.Quoted

namespace Declutter.Text

theorem dropEndWhile_eq_self {p : Char → Bool} {t : Text} (h : ∀ c ∈ t, p c = false) :
    dropEndWhile p t = t := by
  induction t with
  | nil => rfl
  | cons c rest ih =>
    obtain ⟨hc, hr⟩ := List.forall_mem_cons.mp h
    cases rest with
    | nil => simp [dropEndWhile, hc]
    | cons d rest => rw [dropEndWhile, ih hr]

theorem trim_eq_self {t : Text} (h : ∀ c ∈ t, isBlank c = false) : trim t = t := by
  have hs : trimStart t = t := by
    cases t with
    | nil => rfl
    | cons c rest => simp [trimStart, h c (by simp)]
  rw [trim, hs, trimEnd, dropEndWhile_eq_self h]

/-- A text without blanks and quotes is what it is without quotes around it. -/
theorem unquote_eq_self {t : Text} (h : ∀ c ∈ t, isBlank c = false) (hq : '\'' ∉ t) :
    unquote t = t := by
  have hb : betweenQuotes? t = none := by
    unfold betweenQuotes?
    split
    next rest => exact absurd (by simp) hq
    next => rfl
  rw [unquote, trim_eq_self h, hb, Option.getD_none]

theorem isBlank_of_isAsciiDigit {c : Char} (h : isAsciiDigit c = true) : isBlank c = false := by
  obtain ⟨low, high⟩ := toNat_of_isAsciiDigit h
  simp only [isBlank, Bool.or_eq_false_iff, Bool.and_eq_false_iff, decide_eq_false_iff_not,
    beq_eq_false_iff_ne]
  omega

/-- A number is written without blanks and quotes. -/
theorem unquote_of_natural? {limit n : Nat} {t : Text} (h : natural? limit t = some n) :
    unquote t = t := by
  obtain ⟨digits, ht, _, hd, _, _⟩ := exists_digits_of_natural? h
  have hc : ∀ c ∈ t, c = '+' ∨ isAsciiDigit c = true := by
    intro c hc
    rcases ht with rfl | rfl
    · exact Or.inr (hd c hc)
    · exact (List.mem_cons.mp hc).imp_right (hd c)
  refine unquote_eq_self (fun c hm => ?_) fun hq => ?_
  · rcases hc c hm with rfl | hm
    · decide
    · exact isBlank_of_isAsciiDigit hm
  · rcases hc _ hq with he | he
    · exact absurd he (by decide)
    · exact absurd he (by decide)

end Declutter.Text
