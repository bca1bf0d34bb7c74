import Declutter.Text.Numeral
import Mathlib.Data.List.Induction

namespace Declutter.Text

theorem ofNat_ne_nil (n : Nat) : ofNat n ≠ [] :=
  Nat.toDigits_ne_nil

theorem isAsciiDigit_of_mem_ofNat {n : Nat} {c : Char} (h : c ∈ ofNat n) :
    isAsciiDigit c = true :=
  Nat.isDigit_of_mem_toDigits (by decide) (by decide) h

/-- The digits of a number write it. -/
@[simp]
theorem decimal_ofNat (n : Nat) : decimal (ofNat n) = n :=
  Nat.ofDigitChars_eq_foldl.symm.trans Nat.ofDigitChars_ten_toDigits

/-- Only the digits of zero start with a zero. -/
theorem eq_nil_of_ofNat_eq_zero_cons {n : Nat} {rest : Text} (h : ofNat n = '0' :: rest) :
    rest = [] := by
  induction n using Nat.strongRecOn generalizing rest with
  | ind n ih =>
    unfold ofNat at h ih
    by_cases small : n < 10
    · rw [Nat.toDigits_of_lt_base small] at h
      exact (List.cons.inj h).2.symm
    · rw [Nat.toDigits_of_base_le (by decide) (by omega)] at h
      obtain ⟨c, others, hd⟩ := List.exists_cons_of_ne_nil (ofNat_ne_nil (n / 10))
      unfold ofNat at hd
      rw [hd] at h
      obtain ⟨rfl, -⟩ := List.cons.inj h
      obtain rfl := ih (n / 10) (by omega) hd
      have value := decimal_ofNat (n / 10)
      unfold ofNat at value
      rw [hd] at value
      simp [decimal, digitValue] at value
      omega

theorem toNat_of_isAsciiDigit {c : Char} (h : isAsciiDigit c = true) :
    48 ≤ c.toNat ∧ c.toNat ≤ 57 := by
  simp only [isAsciiDigit, Bool.and_eq_true, decide_eq_true_eq, Char.le_def,
    UInt32.le_iff_toNat_le] at h
  exact h

theorem digitValue_lt {c : Char} (h : isAsciiDigit c = true) : digitValue c < 10 := by
  have := toNat_of_isAsciiDigit h
  unfold digitValue
  omega

theorem digitChar_digitValue {c : Char} (h : isAsciiDigit c = true) :
    Nat.digitChar (digitValue c) = c := by
  have := toNat_of_isAsciiDigit h
  refine Char.toNat_inj.mp ?_
  rw [Nat.toNat_digitChar_of_lt_ten (digitValue_lt h), digitValue]
  omega

theorem decimal_append_singleton (digits : Text) (c : Char) :
    decimal (digits ++ [c]) = 10 * decimal digits + digitValue c := by
  simp [decimal, List.foldl_append]

/-- Digits are those of the number that they write, after zeros. -/
theorem exists_zeros {digits : Text} (ne : digits ≠ [])
    (all : ∀ c ∈ digits, isAsciiDigit c = true) :
    ∃ count, digits = List.replicate count '0' ++ ofNat (decimal digits) := by
  induction digits using List.reverseRecOn with
  | nil => exact absurd rfl ne
  | append_singleton digits c ih =>
    obtain ⟨before, digit⟩ := List.forall_mem_append.mp all
    have digit := digit c (List.mem_singleton_self c)
    have single : ofNat (digitValue c) = [c] := by
      rw [ofNat, Nat.toDigits_of_lt_base (digitValue_lt digit), digitChar_digitValue digit]
    rw [decimal_append_singleton]
    rcases List.eq_nil_or_concat digits with rfl | ⟨_, _, rfl⟩
    · exact ⟨0, by simp [decimal, single]⟩
    · obtain ⟨count, whole⟩ := ih (by simp) before
      generalize decimal _ = n at whole ⊢
      rw [whole]
      by_cases zero : n = 0
      · -- The zero that stands for nothing so far is a leading one now.
        subst zero
        refine ⟨count + 1, ?_⟩
        rw [Nat.mul_zero, Nat.zero_add, single, List.replicate_succ']
        rfl
      · refine ⟨count, ?_⟩
        have := digitValue_lt digit
        have front : (10 * n + digitValue c) / 10 = n := by omega
        have last : (10 * n + digitValue c) % 10 = digitValue c := by omega
        have more : ofNat (10 * n + digitValue c) = ofNat n ++ [c] := by
          rw [ofNat, Nat.toDigits_of_base_le (by decide) (by omega), front, last,
            digitChar_digitValue digit, ofNat]
        rw [more, List.append_assoc]

/-- A number is written as digits, perhaps after a plus sign. -/
theorem exists_digits_of_natural? {limit n : Nat} {t : Text} (h : natural? limit t = some n) :
    ∃ digits, (t = digits ∨ t = '+' :: digits) ∧ digits ≠ [] ∧
      (∀ c ∈ digits, isAsciiDigit c = true) ∧ decimal digits = n ∧ n ≤ limit := by
  have value : ∀ digits : Text, (if digits.isEmpty || !digits.all isAsciiDigit then none
      else if decimal digits ≤ limit then some (decimal digits) else none) = some n →
      digits ≠ [] ∧ (∀ c ∈ digits, isAsciiDigit c = true) ∧ decimal digits = n ∧ n ≤ limit := by
    intro digits hd
    split at hd
    next => simp at hd
    next hne =>
      split at hd
      next hle =>
        cases Option.some.inj hd
        have hp : digits ≠ [] ∧ digits.all isAsciiDigit = true := by simpa using hne
        exact ⟨hp.1, List.all_eq_true.mp hp.2, rfl, hle⟩
      next => simp at hd
  unfold natural? at h
  split at h
  next rest => exact ⟨rest, Or.inr rfl, value rest h⟩
  next => exact ⟨t, Or.inl rfl, value t h⟩

theorem decimal_zeros_append (count : Nat) (digits : Text) :
    decimal (List.replicate count '0' ++ digits) = decimal digits := by
  induction count with
  | zero => rfl
  | succ count ih => exact ih

/-- What reads as a number are its digits after zeros, and a plus sign may stand in front. -/
theorem natural?_eq_some_iff {limit n : Nat} {t : Text} : natural? limit t = some n ↔
    n ≤ limit ∧ ∃ (sign : Text) (count : Nat), (sign = [] ∨ sign = ['+']) ∧
      t = sign ++ List.replicate count '0' ++ ofNat n := by
  constructor
  · intro h
    obtain ⟨digits, ht, ne, all, rfl, le⟩ := exists_digits_of_natural? h
    obtain ⟨count, whole⟩ := exists_zeros ne all
    rcases ht with rfl | rfl
    · exact ⟨le, [], count, .inl rfl, whole⟩
    · exact ⟨le, ['+'], count, .inr rfl, congrArg (List.cons '+') whole⟩
  · rintro ⟨le, sign, count, signed, rfl⟩
    have all : ∀ c ∈ List.replicate count '0' ++ ofNat n, isAsciiDigit c = true := by
      refine List.forall_mem_append.mpr ⟨fun c hc => ?_, fun c => isAsciiDigit_of_mem_ofNat⟩
      rw [List.eq_of_mem_replicate hc]
      rfl
    have ne : List.replicate count '0' ++ ofNat n ≠ [] := by simp [ofNat_ne_nil]
    have value : decimal (List.replicate count '0' ++ ofNat n) = n := by
      rw [decimal_zeros_append, decimal_ofNat]
    rw [List.append_assoc]
    generalize List.replicate count '0' ++ ofNat n = digits at all ne value
    have read : (if digits.isEmpty || !digits.all isAsciiDigit then none
        else if decimal digits ≤ limit then some (decimal digits) else none) = some n := by
      have proper : (digits.isEmpty || !digits.all isAsciiDigit) = false := by
        simpa [ne] using all
      rw [proper, value, if_neg (by decide), if_pos le]
    rcases signed with rfl | rfl
    · rw [List.nil_append]
      unfold natural?
      split
      next rest => exact absurd (all '+' List.mem_cons_self) (by decide)
      next => exact read
    · exact read

end Declutter.Text
