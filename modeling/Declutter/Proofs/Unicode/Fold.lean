import Declutter.Unicode.Fold
import Declutter.Unicode.WordChar

namespace Declutter

namespace Text

theorem toNat_lowerAscii_of_upper {c : Char} (upper : 'A' ≤ c ∧ c ≤ 'Z') :
    (lowerAscii c).toNat = c.toNat + 32 := by
  have low : 65 ≤ c.toNat := upper.1
  have high : c.toNat ≤ 90 := upper.2
  have valid : (c.toNat + 32).isValidChar := Or.inl (by omega)
  rw [lowerAscii, if_pos upper, Char.ofNat, dif_pos valid]
  rfl

@[simp]
theorem isAscii_lowerAscii (c : Char) : isAscii (lowerAscii c) = isAscii c := by
  by_cases upper : 'A' ≤ c ∧ c ≤ 'Z'
  · have high : c.toNat ≤ 90 := upper.2
    have shifted := toNat_lowerAscii_of_upper upper
    simp only [isAscii, decide_eq_decide]
    omega
  · rw [lowerAscii, if_neg upper]

theorem lowerAscii_lowerAscii (c : Char) : lowerAscii (lowerAscii c) = lowerAscii c := by
  by_cases upper : 'A' ≤ c ∧ c ≤ 'Z'
  · have low : 65 ≤ c.toNat := upper.1
    have shifted := toNat_lowerAscii_of_upper upper
    refine if_neg fun still => ?_
    have high : (lowerAscii c).toNat ≤ 90 := still.2
    omega
  · have same : lowerAscii c = c := if_neg upper
    rw [same, same]

theorem lowerAscii_of_not_isAscii {c : Char} (past : isAscii c = false) : lowerAscii c = c := by
  refine if_neg fun upper => ?_
  have high : c.toNat ≤ 90 := upper.2
  have large : ¬ c.toNat < 128 := of_decide_eq_false past
  omega

theorem isAsciiAlphanumeric_lowerAscii (c : Char) :
    isAsciiAlphanumeric (lowerAscii c) = isAsciiAlphanumeric c := by
  by_cases upper : 'A' ≤ c ∧ c ≤ 'Z'
  · have low : 65 ≤ c.toNat := upper.1
    have high : c.toNat ≤ 90 := upper.2
    have shifted := toNat_lowerAscii_of_upper upper
    have first : 'a' ≤ lowerAscii c := show 97 ≤ (lowerAscii c).toNat by omega
    have last : lowerAscii c ≤ 'z' := show (lowerAscii c).toNat ≤ 122 by omega
    simp [isAsciiAlphanumeric, isAsciiLetter, first, last, upper]
  · rw [lowerAscii, if_neg upper]

/-- What stands before the letters is written by itself only. -/
theorem eq_of_lowerAscii_eq {c d : Char} (before : d.toNat < 65) (h : lowerAscii c = d) : c = d := by
  by_cases upper : 'A' ≤ c ∧ c ≤ 'Z'
  · have low : 65 ≤ c.toNat := upper.1
    have shifted := toNat_lowerAscii_of_upper upper
    rw [h] at shifted
    omega
  · rw [lowerAscii, if_neg upper] at h
    exact h

theorem lowerAscii_eq_iff {c d : Char} (before : d.toNat < 65) : lowerAscii c = d ↔ c = d := by
  refine ⟨eq_of_lowerAscii_eq before, ?_⟩
  rintro rfl
  refine if_neg fun upper => ?_
  have low : 65 ≤ c.toNat := upper.1
  omega

end Text

namespace Unicode

open Text (lowerAscii isAscii)

/-- Whether `c` is the ASCII character `g` up to case. Two characters past ASCII are: the long s
and the kelvin sign. -/
def IsCaseOf (g c : Char) : Prop :=
  lowerAscii c = lowerAscii g ∨ lowerAscii g = 's' ∧ c = '\u017f' ∨ lowerAscii g = 'k' ∧ c = '\u212a'

instance (g c : Char) : Decidable (IsCaseOf g c) :=
  inferInstanceAs (Decidable (_ ∨ _))

/-- The shifts that lead into ASCII. -/
def Shift.intoAscii (s : Shift) : Bool :=
  s.target < 128

set_option maxRecDepth 400000 in
theorem foldShifts_intoAscii :
    (foldShifts.filter Shift.intoAscii).map (fun s => (s.first, s.last, s.target)) =
        [(0x17f, 0x17f, 0x73), (0x212a, 0x212a, 0x6b)] ∧
      shift? foldShifts 0x17f = some 0x73 ∧ shift? foldShifts 0x212a = some 0x6b := by
  have read : ∃ shifts, foldShifts = shifts ∧
      ((shifts.filter Shift.intoAscii).map (fun s => (s.first, s.last, s.target)) =
        [(0x17f, 0x17f, 0x73), (0x212a, 0x212a, 0x6b)] ∧
      shift? shifts 0x17f = some 0x73 ∧ shift? shifts 0x212a = some 0x6b) := by
    refine ⟨_, congrArg (fun t => (Text.words t).map readShift) String.toList_ofList, ?_⟩
    decide +kernel
  obtain ⟨shifts, rfl, facts⟩ := read
  exact facts

theorem fold_of_isAscii {c : Char} (ascii : isAscii c = true) : fold c = lowerAscii c :=
  if_pos ascii

/-- A letter and its lower case are folded alike. -/
theorem fold_lowerAscii (c : Char) : fold (lowerAscii c) = fold c := by
  cases ascii : isAscii c with
  | true =>
    rw [fold_of_isAscii ascii, fold_of_isAscii (by simpa using ascii), Text.lowerAscii_lowerAscii]
  | false => rw [Text.lowerAscii_of_not_isAscii ascii]

theorem isWordChar_lowerAscii (c : Char) : isWordChar (lowerAscii c) = isWordChar c := by
  cases ascii : isAscii c with
  | true =>
    have lineBelow : (lowerAscii c == '_') = (c == '_') := by
      by_cases upper : 'A' ≤ c ∧ c ≤ 'Z'
      · have shifted := Text.toNat_lowerAscii_of_upper upper
        have low : 65 ≤ c.toNat := upper.1
        have high : c.toNat ≤ 90 := upper.2
        have ne : c ≠ '_' := by
          rintro rfl
          revert high
          decide
        have ne' : lowerAscii c ≠ '_' := by
          intro same
          rw [same] at shifted
          have value : '_'.toNat = 95 := rfl
          omega
        rw [beq_eq_false_iff_ne.mpr ne, beq_eq_false_iff_ne.mpr ne']
      · rw [lowerAscii, if_neg upper]
    rw [isWordChar, isWordChar, if_pos (by simpa using ascii), if_pos ascii,
      Text.isAsciiAlphanumeric_lowerAscii, lineBelow]
  | false => rw [Text.lowerAscii_of_not_isAscii ascii]

theorem fold_of_shift? {c : Char} {n : Nat} (past : isAscii c = false)
    (found : shift? foldShifts c.toNat = some n) : fold c = Char.ofNat n := by
  simp only [fold, past, found, Bool.false_eq_true, if_false]

theorem fold_of_no_shift? {c : Char} (past : isAscii c = false)
    (found : shift? foldShifts c.toNat = none) : fold c = c := by
  simp only [fold, past, found, Bool.false_eq_true, if_false]

theorem fold_longS : fold '\u017f' = 's' :=
  fold_of_shift? (by decide) foldShifts_intoAscii.2.1

theorem fold_kelvin : fold '\u212a' = 'k' :=
  fold_of_shift? (by decide) foldShifts_intoAscii.2.2

theorem apply?_of_intoAscii {s : Shift} {n m : Nat} (h : s.apply? n = some m) (into : m < 128) :
    s.intoAscii = true ∧ s.first ≤ n ∧ n ≤ s.last ∧ m = s.target + (n - s.first) := by
  unfold Shift.apply? at h
  split at h
  next within =>
    cases h
    exact ⟨decide_eq_true (by omega), within.1, within.2.1, rfl⟩
  next => cases h

theorem shift?_intoAscii {n m : Nat} (h : shift? foldShifts n = some m) (into : m < 128) :
    n = 0x17f ∧ m = 0x73 ∨ n = 0x212a ∧ m = 0x6b := by
  obtain ⟨s, hs, applied⟩ := List.exists_of_findSome?_eq_some h
  obtain ⟨low, first, last, target⟩ := apply?_of_intoAscii applied into
  have listed : (s.first, s.last, s.target) ∈
      [(0x17f, 0x17f, 0x73), (0x212a, 0x212a, 0x6b)] := by
    rw [← foldShifts_intoAscii.1]
    exact List.mem_map_of_mem (List.mem_filter.mpr ⟨hs, low⟩)
  simp only [List.mem_cons, Prod.mk.injEq, List.not_mem_nil, or_false] at listed
  omega

/-- Past ASCII, only the long s and the kelvin sign are folded to an ASCII letter. -/
theorem fold_isAscii {c : Char} (past : isAscii c = false) (ascii : isAscii (fold c) = true)
    (nonzero : fold c ≠ '\x00') : fold c = 's' ∧ c = '\u017f' ∨ fold c = 'k' ∧ c = '\u212a' := by
  rcases found : shift? foldShifts c.toNat with _ | n
  · rw [fold_of_no_shift? past found, past] at ascii
    cases ascii
  · have shifted := fold_of_shift? past found
    by_cases valid : n.isValidChar
    · have value : (fold c).toNat = n := by
        rw [shifted, Char.ofNat, dif_pos valid]
        rfl
      have into : n < 128 := by
        rw [← value]
        exact of_decide_eq_true ascii
      rcases shift?_intoAscii found into with ⟨source, rfl⟩ | ⟨source, rfl⟩
      · have longS : c.toNat = '\u017f'.toNat := source
        exact Or.inl ⟨shifted, Char.toNat_inj.mp longS⟩
      · have kelvin : c.toNat = '\u212a'.toNat := source
        exact Or.inr ⟨shifted, Char.toNat_inj.mp kelvin⟩
    · -- A number that is no code point would be read as zero.
      refine absurd ?_ nonzero
      rw [shifted, Char.ofNat, dif_neg valid]
      rfl

theorem sameFold_iff_isCaseOf {g c : Char} (ascii : isAscii g = true)
    (nonzero : lowerAscii g ≠ '\x00') : sameFold g c = true ↔ IsCaseOf g c := by
  unfold sameFold
  rw [beq_iff_eq, fold_of_isAscii ascii]
  by_cases past : isAscii c = true
  · rw [fold_of_isAscii past]
    refine ⟨fun h => Or.inl h.symm, ?_⟩
    rintro (h | ⟨-, rfl⟩ | ⟨-, rfl⟩)
    · exact h.symm
    · simp [isAscii] at past
    · simp [isAscii] at past
  · constructor
    · intro h
      have into : isAscii (fold c) = true := by rw [← h, Text.isAscii_lowerAscii, ascii]
      have folded := fold_isAscii (Bool.eq_false_iff.mpr past) into (h ▸ nonzero)
      rw [← h] at folded
      exact Or.inr folded
    · rintro (h | ⟨h, rfl⟩ | ⟨h, rfl⟩)
      · rw [← Text.isAscii_lowerAscii, h, Text.isAscii_lowerAscii] at past
        exact absurd ascii past
      · rw [h, fold_longS]
      · rw [h, fold_kelvin]

end Unicode

end Declutter
