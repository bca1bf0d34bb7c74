import Declutter.Text.Blank

namespace Declutter.Text

theorem pieces_eq_splitOnP (separates : Char → Bool) (t : Text) :
    pieces separates t = t.splitOnP separates := by
  induction t with
  | nil => rfl
  | cons c rest ih =>
    rw [pieces, List.splitOnP_cons_eq_if_modifyHead, ih]
    split
    · rfl
    · cases h : rest.splitOnP separates with
      | nil => exact absurd h (ih ▸ pieces_ne_nil separates rest)
      | cons piece others => rfl

/-- The pieces with their separator between them are the text. -/
theorem intercalate_pieces (c : Char) (t : Text) : [c].intercalate (pieces (· == c) t) = t := by
  rw [pieces_eq_splitOnP, ← List.splitOn_eq_splitOnP, List.intercalate_splitOn]

theorem pieces_of_none {separates : Char → Bool} {t : Text} (h : ∀ c ∈ t, separates c = false) :
    pieces separates t = [t] := by
  induction t with
  | nil => rfl
  | cons c t ih =>
    obtain ⟨hc, ht⟩ := List.forall_mem_cons.mp h
    rw [pieces, if_neg (by simp [hc]), ih ht, consFirst]

/-- The pieces in front of a separator and those behind it are the pieces of the whole. -/
theorem pieces_append_separator {separates : Char → Bool} {c : Char} (hc : separates c = true)
    (s t : Text) : pieces separates (s ++ c :: t) = pieces separates s ++ pieces separates t := by
  induction s with
  | nil => simp [pieces, hc]
  | cons d s ih =>
    rw [List.cons_append, pieces, pieces, ih]
    split
    · rfl
    · obtain ⟨first, others, hp⟩ := List.exists_cons_of_ne_nil (pieces_ne_nil separates s)
      rw [hp]
      rfl

/-- The first piece ends where the first separator stands. -/
theorem pieces_append_cons {separates : Char → Bool} {s : Text} {c : Char}
    (hs : ∀ d ∈ s, separates d = false) (hc : separates c = true) (t : Text) :
    pieces separates (s ++ c :: t) = s :: pieces separates t := by
  rw [pieces_append_separator hc, pieces_of_none hs, List.singleton_append]

theorem not_separates_of_mem_pieces {separates : Char → Bool} {t piece : Text}
    (h : piece ∈ pieces separates t) : ∀ d ∈ piece, separates d = false := by
  induction t generalizing piece with
  | nil => simp_all [pieces]
  | cons c t ih =>
    unfold pieces at h
    split at h
    next =>
      rcases List.mem_cons.mp h with rfl | h
      · simp
      · exact ih h
    next hc =>
      obtain ⟨first, others, hp⟩ := List.exists_cons_of_ne_nil (pieces_ne_nil separates t)
      rw [hp, consFirst] at h
      rcases List.mem_cons.mp h with rfl | h
      · have hfirst := ih (hp ▸ List.mem_cons_self)
        exact List.forall_mem_cons.mpr ⟨by simpa using hc, hfirst⟩
      · exact ih (hp ▸ List.mem_cons_of_mem _ h)

theorem separates_or_mem_pieces (separates : Char → Bool) {t : Text} {c : Char} (h : c ∈ t) :
    separates c = true ∨ ∃ piece ∈ pieces separates t, c ∈ piece := by
  induction t with
  | nil => cases h
  | cons d t ih =>
    by_cases hd : separates d = true
    · rcases List.mem_cons.mp h with rfl | h
      · exact .inl hd
      · exact (ih h).imp_right fun ⟨piece, hp, hc⟩ => ⟨piece, by simp [pieces, hd, hp], hc⟩
    · obtain ⟨first, others, whole⟩ := List.exists_cons_of_ne_nil (pieces_ne_nil separates t)
      rw [pieces, if_neg hd, whole, consFirst]
      rw [whole] at ih
      rcases List.mem_cons.mp h with rfl | h
      · exact .inr ⟨_, List.mem_cons_self, List.mem_cons_self⟩
      · refine (ih h).imp_right ?_
        rintro ⟨piece, hp, hc⟩
        rcases List.mem_cons.mp hp with rfl | hp
        · exact ⟨_, List.mem_cons_self, List.mem_cons_of_mem _ hc⟩
        · exact ⟨piece, List.mem_cons_of_mem _ hp, hc⟩

theorem mem_fields {separates : Char → Bool} {t field : Text} (h : field ∈ fields separates t) :
    field ≠ [] ∧ ∀ d ∈ field, separates d = false := by
  obtain ⟨hp, hne⟩ := List.mem_filter.mp h
  exact ⟨by simpa using hne, not_separates_of_mem_pieces hp⟩

/-- Fields that are joined with a separator are the fields of the whole. -/
theorem fields_intercalate {separates : Char → Bool} {c : Char} (hc : separates c = true)
    {names : List Text} (h : ∀ n ∈ names, n ≠ [] ∧ ∀ d ∈ n, separates d = false) :
    fields separates ([c].intercalate names) = names := by
  induction names with
  | nil => rfl
  | cons n names ih =>
    obtain ⟨⟨hne, hn⟩, hnames⟩ := List.forall_mem_cons.mp h
    cases names with
    | nil => simp [fields, pieces_of_none hn, hne]
    | cons m names =>
      have ih := ih hnames
      rw [fields] at ih
      rw [List.intercalate_cons_cons, List.append_assoc, List.singleton_append, fields,
        pieces_append_cons hn hc, List.filter_cons_of_pos (by simpa using hne), ih]

/-- Characters may be replaced before a text is cut if that makes no separator and unmakes none. -/
theorem pieces_map {separates : Char → Bool} {g : Char → Char}
    (same : ∀ c, separates (g c) = separates c) (t : Text) :
    pieces separates (t.map g) = (pieces separates t).map (List.map g) := by
  induction t with
  | nil => rfl
  | cons c rest ih =>
    rw [List.map_cons, pieces, pieces, same, ih]
    split
    · rfl
    · cases pieces separates rest <;> rfl

theorem fields_map {separates : Char → Bool} {g : Char → Char}
    (same : ∀ c, separates (g c) = separates c) (t : Text) :
    fields separates (t.map g) = (fields separates t).map (List.map g) := by
  rw [fields, fields, pieces_map same, List.filter_map]
  congr 1
  refine List.filter_congr fun piece _ => ?_
  cases piece <;> rfl

theorem words_of_not_blank {t : Text} (ne : t ≠ []) (h : ∀ c ∈ t, isBlank c = false) :
    words t = [t] := by
  rw [words, fields, pieces_of_none h]
  simp [ne]

end Declutter.Text
