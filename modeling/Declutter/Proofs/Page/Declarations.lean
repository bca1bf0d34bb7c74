import Declutter.Page.Style
import Declutter.Proofs.Text.Pieces
import Declutter.Proofs.Text.Quoted
import Declutter.Proofs.Text.Trim

namespace Declutter

namespace Style

/-- The declarations of an inline style: what stands between its semicolons, without blanks around
it, where there is anything. -/
def declarations (style : Text) : List Text :=
  ((Text.pieces (· == ';') style).map Text.trim).filter fun d => !d.isEmpty

/-- Blanks and semicolons, which may stand around declarations and are no part of them. -/
def isFiller (c : Char) : Bool :=
  Text.isBlank c || c == ';'

theorem ne_semicolon_of_isBlank {c : Char} (h : Text.isBlank c = true) : c ≠ ';' := by
  rintro rfl
  exact absurd h (by decide)

theorem semicolon_notMem {s : Text} (blank : ∀ c ∈ s, Text.isBlank c = true) : ';' ∉ s :=
  fun h => ne_semicolon_of_isBlank (blank _ h) rfl

/-- A semicolon parts the declarations in front of it from those behind it. -/
theorem declarations_append_semicolon (s t : Text) :
    declarations (s ++ ';' :: t) = declarations s ++ declarations t := by
  simp [declarations, Text.pieces_append_separator]

theorem declarations_of_notMem {s : Text} (h : ';' ∉ s) :
    declarations s = [Text.trim s].filter fun d => !d.isEmpty := by
  have whole : Text.pieces (· == ';') s = [s] :=
    Text.pieces_of_none fun c hc => beq_eq_false_iff_ne.mpr fun he => h (he ▸ hc)
  rw [declarations, whole, List.map_singleton]

theorem declarations_eq_of_trim {s t : Text} (hs : ';' ∉ s) (ht : ';' ∉ t)
    (same : Text.trim s = Text.trim t) : declarations s = declarations t := by
  rw [declarations_of_notMem hs, declarations_of_notMem ht, same]

theorem declarations_append_of_blank {lead : Text} (blank : ∀ c ∈ lead, Text.isBlank c = true)
    (s : Text) : declarations (lead ++ s) = declarations s := by
  have single {t : Text} (ht : ';' ∉ t) : declarations (lead ++ t) = declarations t :=
    declarations_eq_of_trim (by simp [semicolon_notMem blank, ht]) ht
      (Text.trim_append_of_blank blank t)
  by_cases h : ';' ∈ s
  · obtain ⟨first, rest, rfl, hf⟩ := List.eq_append_cons_of_mem h
    rw [← List.append_assoc, declarations_append_semicolon, declarations_append_semicolon,
      single hf]
  · exact single h

theorem declarations_append_of_blank_tail {tail : Text}
    (blank : ∀ c ∈ tail, Text.isBlank c = true) (s : Text) :
    declarations (s ++ tail) = declarations s := by
  have single {t : Text} (ht : ';' ∉ t) : declarations (t ++ tail) = declarations t :=
    declarations_eq_of_trim (by simp [semicolon_notMem blank, ht]) ht
      (Text.trim_append_of_blank_tail blank t)
  by_cases h : ';' ∈ s
  · -- The tail goes to the piece behind the last semicolon.
    obtain ⟨last, front, hs, hl⟩ := List.eq_append_cons_of_mem (List.mem_reverse.mpr h)
    obtain rfl : s = front.reverse ++ ';' :: last.reverse := by
      simpa using congrArg List.reverse hs
    rw [List.append_assoc, List.cons_append, declarations_append_semicolon,
      declarations_append_semicolon, single (mt List.mem_reverse.mp hl)]
  · exact single h

/-- Blanks and semicolons behind a style add no declaration to it. -/
theorem declarations_append_of_filler {tail : Text} (h : ∀ c ∈ tail, isFiller c = true)
    (s : Text) : declarations (s ++ tail) = declarations s := by
  induction tail generalizing s with
  | nil => rw [List.append_nil]
  | cons c tail ih =>
    obtain ⟨hc, ht⟩ := List.forall_mem_cons.mp h
    have here : declarations (s ++ [c]) = declarations s := by
      rcases (Bool.or_eq_true _ _).mp hc with blank | semicolon
      · exact declarations_append_of_blank_tail (List.forall_mem_singleton.mpr blank) s
      · obtain rfl : c = ';' := beq_iff_eq.mp semicolon
        rw [declarations_append_semicolon]
        exact List.append_nil _
    rw [List.append_cons, ih ht, here]

/-- Settling a style drops blanks at its front, and blanks and semicolons at its end. -/
theorem exists_settled (style : Text) : ∃ lead tail : Text,
    (∀ c ∈ lead, Text.isBlank c = true) ∧ (∀ c ∈ tail, isFiller c = true) ∧
      lead ++ settled style ++ tail = style := by
  obtain ⟨lead, hlead, front⟩ := Text.exists_trimStart style
  obtain ⟨blanks, hblanks, trimmed⟩ := Text.exists_trimEnd (Text.trimStart style)
  obtain ⟨semicolons, hsemicolons, closed⟩ :=
    Text.exists_dropEndWhile (· == ';') (Text.trim style)
  obtain ⟨others, hothers, settles⟩ :=
    Text.exists_trimEnd (Text.dropEndWhile (· == ';') (Text.trim style))
  refine ⟨lead, others ++ semicolons ++ blanks, hlead, ?_, ?_⟩
  · simp only [List.forall_mem_append, isFiller, Bool.or_eq_true]
    exact ⟨⟨fun c hc => .inl (hothers c hc), fun c hc => .inr (hsemicolons c hc)⟩,
      fun c hc => .inl (hblanks c hc)⟩
  · calc lead ++ settled style ++ (others ++ semicolons ++ blanks)
        = lead ++ (((settled style ++ others) ++ semicolons) ++ blanks) := by
          simp only [List.append_assoc]
      _ = lead ++ (Text.trim style ++ blanks) := by rw [settled, settles, closed]
      _ = style := by rw [Text.trim, trimmed, front]

theorem declarations_settled (style : Text) : declarations (settled style) = declarations style := by
  obtain ⟨lead, tail, hlead, htail, whole⟩ := exists_settled style
  calc declarations (settled style)
      = declarations (lead ++ settled style ++ tail) := by
        rw [declarations_append_of_filler htail, declarations_append_of_blank hlead]
    _ = declarations style := by rw [whole]

/-- The declarations of a style with more appended are those of both, in order. -/
theorem declarations_append (current declaration : Text) :
    declarations (append current declaration) =
      declarations current ++ declarations declaration := by
  rw [append, ← declarations_settled current]
  split
  next empty =>
    rw [List.isEmpty_iff.mp empty]
    rfl
  next =>
    rw [List.append_assoc]
    change declarations (settled current ++ ';' :: ([' '] ++ declaration)) = _
    rw [declarations_append_semicolon,
      declarations_append_of_blank (List.forall_mem_singleton.mpr (by decide))]

/-- Appending to two styles gives the same exactly if settling them does. -/
theorem append_eq_append_iff {s t declaration : Text} :
    append s declaration = append t declaration ↔ settled s = settled t := by
  constructor
  · intro same
    have lengths := congrArg List.length same
    unfold append at same lengths
    split at same <;> split at same
    next hs ht => rw [List.isEmpty_iff.mp hs, List.isEmpty_iff.mp ht]
    next hs ht =>
      simp only [if_pos hs, if_neg ht, List.length_append] at lengths
      exact absurd lengths (by simp)
    next hs ht =>
      simp only [if_neg hs, if_pos ht, List.length_append] at lengths
      exact absurd lengths (by simp)
    next => exact List.append_cancel_right (List.append_cancel_right same)
  · intro same
    rw [append, append, same]

/-- Blanks, with at most one run of semicolons among them. -/
def IsClosing (rest : Text) : Prop :=
  ∃ (before : Text) (count : Nat) (after : Text), (∀ c ∈ before, Text.isBlank c = true) ∧
    (∀ c ∈ after, Text.isBlank c = true) ∧ rest = before ++ List.replicate count ';' ++ after

/-- What settling leaves of a text behind a declaration. -/
def remnant (rest : Text) : Text :=
  Text.trimEnd (Text.dropEndWhile (· == ';') (Text.trimEnd rest))

theorem settled_append_cons {c : Char} (hc : isFiller c = false) (s rest : Text) :
    settled (s ++ c :: rest) = Text.trimStart s ++ c :: remnant rest := by
  obtain ⟨visible, other⟩ := (Bool.or_eq_false_iff).mp hc
  rw [settled, Text.trim_append_cons visible, Text.dropEndWhile_append_cons (p := (· == ';')) other,
    Text.trimEnd_append_cons visible, remnant]

/-- Settling leaves nothing exactly of one run of semicolons among blanks. -/
theorem remnant_eq_nil_iff {rest : Text} : remnant rest = [] ↔ IsClosing rest := by
  constructor
  · intro nothing
    obtain ⟨after, hafter, whole⟩ := Text.exists_trimEnd rest
    obtain ⟨semicolons, hsemicolons, closed⟩ :=
      Text.exists_dropEndWhile (· == ';') (Text.trimEnd rest)
    obtain ⟨before, hbefore, bare⟩ :=
      Text.exists_trimEnd (Text.dropEndWhile (· == ';') (Text.trimEnd rest))
    rw [show Text.trimEnd _ = [] from nothing, List.nil_append] at bare
    refine ⟨before, semicolons.length, after, hbefore, hafter, ?_⟩
    rw [← List.eq_replicate_of_mem fun c hc => beq_iff_eq.mp (hsemicolons c hc), bare, closed,
      whole]
  · rintro ⟨before, count, after, hbefore, hafter, rfl⟩
    have blank : Text.trimEnd before = [] := Text.dropEndWhile_append_of_all hbefore []
    have shut : Text.trimEnd (before ++ List.replicate count ';' ++ after) =
        Text.trimEnd (before ++ List.replicate count ';') :=
      Text.dropEndWhile_append_of_all hafter _
    rw [remnant, shut]
    cases count with
    | zero =>
      rw [List.replicate_zero, List.append_nil, blank]
      rfl
    | succ count =>
      have kept : Text.trimEnd (before ++ List.replicate (count + 1) ';') =
          before ++ List.replicate (count + 1) ';' := by
        rw [List.replicate_succ', ← List.append_assoc]
        exact Text.trimEnd_append_cons (by decide) _ []
      have other : ∀ c ∈ before, (c == ';') = false := fun c hc =>
        beq_eq_false_iff_ne.mpr (ne_semicolon_of_isBlank (hbefore c hc))
      rw [kept, Text.dropEndWhile_append_of_all (by simp), Text.dropEndWhile_eq_self other, blank]

theorem isClosing_trimStart {rest : Text} : IsClosing (Text.trimStart rest) ↔ IsClosing rest := by
  constructor
  · rintro ⟨before, count, after, hbefore, hafter, same⟩
    obtain ⟨lead, hlead, whole⟩ := Text.exists_trimStart rest
    refine ⟨lead ++ before, count, after, List.forall_mem_append.mpr ⟨hlead, hbefore⟩, hafter, ?_⟩
    rw [← whole, same]
    simp only [List.append_assoc]
  · rintro ⟨before, count, after, hbefore, hafter, rfl⟩
    rw [List.append_assoc, Text.trimStart_append_of_blank hbefore]
    cases count with
    | zero => exact ⟨[], 0, [], nofun, nofun, Text.trimStart_eq_nil hafter⟩
    | succ count => exact ⟨[], count + 1, after, nofun, hafter, rfl⟩

/-- Behind a style that does not end in blanks or semicolons, settling drops exactly one run of
semicolons among blanks. -/
theorem settled_append_iff {current : Text}
    (ends : ∀ c, current.getLast? = some c → isFiller c = false) (rest : Text) :
    settled (current ++ rest) = settled current ↔ IsClosing rest := by
  rcases List.eq_nil_or_concat current with rfl | ⟨s, c, rfl⟩
  · exact remnant_eq_nil_iff.trans isClosing_trimStart
  · have hc : isFiller c = false := ends c (by simp)
    have bare : remnant [] = [] := rfl
    rw [List.concat_eq_append, ← List.append_cons, settled_append_cons hc, settled_append_cons hc,
      bare, ← remnant_eq_nil_iff, List.append_cancel_left_eq, List.cons.injEq]
    exact and_iff_right rfl

/-- What blanks and semicolons at the end of a style have to say when a declaration is appended.
None but blanks around one run of semicolons are passed over, but in no case do they make or unmake
a declaration; and there is nothing in front of the declaration where the style is empty. -/
theorem append_trailing {current : Text}
    (ends : ∀ c, current.getLast? = some c → isFiller c = false) (rest declaration : Text) :
    (append (current ++ rest) declaration = append current declaration ↔ IsClosing rest) ∧
      ((∀ c ∈ rest, isFiller c = true) →
        declarations (append (current ++ rest) declaration) =
          declarations (append current declaration)) ∧
      append [] declaration = declaration := by
  refine ⟨append_eq_append_iff.trans (settled_append_iff ends rest), fun filler => ?_, rfl⟩
  rw [declarations_append, declarations_append, declarations_append_of_filler filler]

theorem append_trailing_color :
    let current := "color: red".toList
    let rest := " ;; ".toList
    (∀ c, current.getLast? = some c → isFiller c = false) ∧ (∀ c ∈ rest, isFiller c = true) ∧
      IsClosing rest ∧
      append (current ++ rest) "opacity: 0".toList = append current "opacity: 0".toList ∧
      declarations (append (current ++ rest) "opacity: 0".toList) =
        declarations (append current "opacity: 0".toList) := by
  intro current rest
  have ends : ∀ c, current.getLast? = some c → isFiller c = false := by
    rintro _ ⟨⟩
    decide
  have filler : ∀ c ∈ rest, isFiller c = true := List.all_eq_true.mp rfl
  have closing : IsClosing rest :=
    ⟨[' '], 2, [' '], List.all_eq_true.mp rfl, List.all_eq_true.mp rfl, rfl⟩
  obtain ⟨same, always, -⟩ := append_trailing ends rest "opacity: 0".toList
  exact ⟨ends, filler, closing, same.mpr closing, always filler⟩

/-- Blanks between semicolons keep the first of them, also in a style with nothing else. -/
theorem append_parted :
    let rest := "; ;".toList
    (∀ c ∈ rest, isFiller c = true) ∧ "color: red".toList.getLast? = some 'd' ∧
      isFiller 'd' = false ∧
      append "color: red".toList "opacity: 0".toList = "color: red; opacity: 0".toList ∧
      append ("color: red".toList ++ rest) "opacity: 0".toList =
        "color: red;; opacity: 0".toList ∧
      append ([] ++ rest) "opacity: 0".toList = ";; opacity: 0".toList := by
  intro rest
  have filler : ∀ c ∈ rest, isFiller c = true := List.all_eq_true.mp rfl
  exact ⟨filler, rfl, rfl, rfl, rfl, rfl⟩

end Style

end Declutter
