import Declutter.Site.Glob
import Mathlib.Data.List.Forall2

namespace Declutter.Glob

/-- What a glob stands for: a run of characters for each star, and one that is the same for any
other character. -/
inductive Instance (run : Char → Prop) (same : Char → Char → Prop) : Text → Text → Prop
  | nil : Instance run same [] []
  | star {glob word text : Text} : word ≠ [] → (∀ c ∈ word, run c) → Instance run same glob text →
      Instance run same ('*' :: glob) (word ++ text)
  | letter {g c : Char} {glob text : Text} : g ≠ '*' → same g c → Instance run same glob text →
      Instance run same (g :: glob) (c :: text)

namespace Instance

variable {run run' : Char → Prop} {same same' : Char → Char → Prop} {glob text : Text}

theorem mono (h : Instance run same glob text) (wider : ∀ c, run c → run' c)
    (weaker : ∀ g ∈ glob, ∀ c, g ≠ '*' → same g c → same' g c) : Instance run' same' glob text := by
  induction h with
  | nil => exact .nil
  | star ne word _ ih =>
    exact .star ne (fun c hc => wider c (word c hc))
      (ih fun g hg => weaker g (List.mem_cons_of_mem _ hg))
  | letter ne hs _ ih =>
    exact .letter ne (weaker _ List.mem_cons_self _ ne hs)
      (ih fun g hg => weaker g (List.mem_cons_of_mem _ hg))

/-- Each character of an instance is in a run or written for a character of the glob. -/
theorem of_mem (h : Instance run same glob text) {c : Char} (hc : c ∈ text) :
    ('*' ∈ glob ∧ run c) ∨ ∃ g ∈ glob, g ≠ '*' ∧ same g c := by
  induction h with
  | nil => cases hc
  | star ne word _ ih =>
    rcases List.mem_append.mp hc with hc | hc
    · exact Or.inl ⟨List.mem_cons_self, word c hc⟩
    · rcases ih hc with ⟨hs, hr⟩ | ⟨g, hg, hn⟩
      · exact Or.inl ⟨List.mem_cons_of_mem _ hs, hr⟩
      · exact Or.inr ⟨g, List.mem_cons_of_mem _ hg, hn⟩
  | letter ne hs _ ih =>
    rcases List.mem_cons.mp hc with rfl | hc
    · exact Or.inr ⟨_, List.mem_cons_self, ne, hs⟩
    · rcases ih hc with ⟨hs, hr⟩ | ⟨g, hg, hn⟩
      · exact Or.inl ⟨List.mem_cons_of_mem _ hs, hr⟩
      · exact Or.inr ⟨g, List.mem_cons_of_mem _ hg, hn⟩

/-- Without a star, an instance is the glob character by character. -/
theorem forall₂ (h : Instance run same glob text) (starless : '*' ∉ glob) :
    List.Forall₂ same glob text := by
  induction h with
  | nil => exact .nil
  | star => simp at starless
  | letter _ hs _ ih => exact .cons hs (ih fun hm => starless (List.mem_cons_of_mem _ hm))

theorem of_forall₂ (h : List.Forall₂ same glob text) (starless : '*' ∉ glob) :
    Instance run same glob text := by
  induction h with
  | nil => exact .nil
  | cons hs _ ih =>
    obtain ⟨ne, starless⟩ := List.ne_and_not_mem_of_not_mem_cons starless
    exact .letter ne.symm hs (ih starless)

theorem append {glob' text' : Text} (h : Instance run same glob text)
    (h' : Instance run same glob' text') : Instance run same (glob ++ glob') (text ++ text') := by
  induction h with
  | nil => exact h'
  | star ne word _ ih =>
    rw [List.append_assoc]
    exact .star ne word ih
  | letter ne hs _ ih => exact .letter ne hs ih

/-- Behind a star at the front, the end of an instance is the rest of the glob. -/
theorem exists_suffix (h : Instance run same ('*' :: glob) text) (starless : '*' ∉ glob) :
    ∃ word rest, word ++ rest = text ∧ List.Forall₂ same glob rest := by
  cases h with
  | @star _ word rest _ _ inst => exact ⟨word, rest, rfl, inst.forall₂ starless⟩
  | letter ne => exact absurd rfl ne

end Instance

/-- An instance by which a glob accepts a text. -/
abbrev Lead (glob lead : Text) : Prop :=
  Instance (fun c => isInLabel c = true) (fun g c => Unicode.sameFold g c = true) glob lead

theorem startsAt_star (glob : Text) (last c : Char) (rest : Text) :
    startsAt ('*' :: glob) last (c :: rest) =
      (isInLabel c && (startsAt glob c rest || startsAt ('*' :: glob) c rest)) := by
  rw [startsAt]

theorem startsAt_letter {g : Char} (ne : g ≠ '*') (glob : Text) (last c : Char) (rest : Text) :
    startsAt (g :: glob) last (c :: rest) = (Unicode.sameFold g c && startsAt glob c rest) := by
  rw [startsAt]
  exact ne

theorem getLastD_append (word text : Text) (last : Char) :
    (word ++ text).getLastD last = text.getLastD (word.getLastD last) := by
  induction word generalizing last with
  | nil => rfl
  | cons c word ih => rw [List.cons_append, List.getLastD_cons, List.getLastD_cons, ih]

/-- A star takes a whole run. -/
theorem startsAt_star_of_run {glob word : Text} {last : Char} (rest : Text) (ne : word ≠ [])
    (run : ∀ c ∈ word, isInLabel c = true)
    (goesOn : startsAt glob (word.getLastD last) rest = true) :
    startsAt ('*' :: glob) last (word ++ rest) = true := by
  induction word generalizing last with
  | nil => exact absurd rfl ne
  | cons c word ih =>
    obtain ⟨hc, hw⟩ := List.forall_mem_cons.mp run
    rw [List.getLastD_cons] at goesOn
    rw [List.cons_append, startsAt_star, hc, Bool.true_and, Bool.or_eq_true]
    by_cases done : word = []
    · subst done
      exact Or.inl goesOn
    · exact Or.inr (ih done hw goesOn)

theorem startsAt_of_lead {glob lead : Text} (inst : Lead glob lead) {last : Char} {tail : Text}
    (edge : isWordEdge (lead.getLastD last) tail.head? = true) :
    startsAt glob last (lead ++ tail) = true := by
  induction inst generalizing last with
  | nil =>
    rw [List.nil_append, startsAt]
    exact edge
  | @star glob word text ne run _ ih =>
    rw [getLastD_append] at edge
    rw [List.append_assoc]
    exact startsAt_star_of_run _ ne run (ih edge)
  | letter ne same _ ih =>
    rw [List.getLastD_cons] at edge
    rw [List.cons_append, startsAt_letter ne, Bool.and_eq_true]
    exact ⟨same, ih edge⟩

theorem lead_of_startsAt {glob text : Text} {last : Char} (h : startsAt glob last text = true) :
    ∃ lead tail, lead ++ tail = text ∧ Lead glob lead ∧
      isWordEdge (lead.getLastD last) tail.head? = true := by
  induction glob, last, text using startsAt.induct with
  | case1 last rest =>
    rw [startsAt] at h
    exact ⟨[], rest, rfl, .nil, h⟩
  | case2 => simp [startsAt] at h
  | case3 last glob c rest ihGlob ihStar =>
    rw [startsAt_star, Bool.and_eq_true, Bool.or_eq_true] at h
    -- The run of the star ends here, or it is the run found behind this character and one longer.
    obtain ⟨inLabel, ends | goesOn⟩ := h
    · obtain ⟨lead, tail, rfl, inst, edge⟩ := ihGlob ends
      have run : ∀ d ∈ [c], isInLabel d = true := by simpa using inLabel
      refine ⟨[c] ++ lead, tail, rfl, .star (List.cons_ne_nil c []) run inst, ?_⟩
      rwa [List.singleton_append, List.getLastD_cons]
    · obtain ⟨lead, tail, rfl, inst, edge⟩ := ihStar goesOn
      cases inst with
      | @star _ word text ne run inst =>
        have longer : ∀ d ∈ c :: word, isInLabel d = true :=
          List.forall_mem_cons.mpr ⟨inLabel, run⟩
        refine ⟨(c :: word) ++ text, tail, rfl, .star (List.cons_ne_nil c word) longer inst, ?_⟩
        rwa [List.cons_append, List.getLastD_cons]
      | letter ne => exact absurd rfl ne
  | case4 last g glob c rest ne ih =>
    rw [startsAt_letter ne, Bool.and_eq_true] at h
    obtain ⟨lead, tail, rfl, inst, edge⟩ := ih h.2
    refine ⟨c :: lead, tail, rfl, .letter ne h.1 inst, ?_⟩
    rwa [List.getLastD_cons]

/-- A text starts with a glob exactly if it starts with an instance that ends at a word edge. -/
theorem startsAt_iff (glob : Text) (last : Char) (text : Text) :
    startsAt glob last text = true ↔ ∃ lead tail, lead ++ tail = text ∧ Lead glob lead ∧
      isWordEdge (lead.getLastD last) tail.head? = true := by
  refine ⟨lead_of_startsAt, ?_⟩
  rintro ⟨lead, tail, rfl, inst, edge⟩
  exact startsAt_of_lead inst edge

end Declutter.Glob
