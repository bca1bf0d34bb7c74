import Declutter.Proofs.Site.Twin
import Declutter.Proofs.Text.Pieces

namespace Declutter

open Text (lowerAscii lowered)

namespace Glob

/-- Texts that are the same up to simple case folding. -/
abbrev SameFolds (s t : Text) : Prop :=
  List.Forall₂ (fun c d => Unicode.sameFold c d = true) s t

/-- Whether the last character of a text is of a word. -/
def endsInWord (t : Text) : Bool :=
  t.getLast?.any Unicode.isWordChar

variable {glob lead t t' r : Text}

theorem lead_iff_of_starless (starless : '*' ∉ glob) : Lead glob lead ↔ SameFolds glob lead :=
  ⟨fun h => h.forall₂ starless, fun h => .of_forall₂ h starless⟩

theorem sameFolds_refl (t : Text) : SameFolds t t :=
  List.forall₂_same.mpr fun c _ => beq_self_eq_true (Unicode.fold c)

theorem edgeBetween_nil_iff : EdgeBetween t [] ↔ endsInWord t = true := by
  simp [EdgeBetween, endsInWord]

/-- Only the letter itself in either case is the same as one of `www.` up to case folding. -/
theorem lowerAscii_of_sameFold_www {c d : Char} (www : lowerAscii d ∈ Address.wwwLabel)
    (same : Unicode.sameFold c d = true) : lowerAscii c = lowerAscii d := by
  have letter : ∀ w ∈ Address.wwwLabel, Text.isAscii w = true ∧ lowerAscii w ≠ '\x00' ∧
      lowerAscii w = w ∧ w ≠ 's' ∧ w ≠ 'k' := List.forall_iff_forall_mem.mp (by decide)
  obtain ⟨ascii, nonzero, lower, notS, notK⟩ := letter _ www
  have turned : Unicode.sameFold (lowerAscii d) c = true := by
    rw [Unicode.sameFold, beq_iff_eq] at same ⊢
    rw [Unicode.fold_lowerAscii, same]
  rcases (Unicode.sameFold_iff_isCaseOf ascii nonzero).mp turned with h | ⟨h, -⟩ | ⟨h, -⟩
  · rw [h, lower]
  · exact absurd (lower.symm.trans h) notS
  · exact absurd (lower.symm.trans h) notK

theorem sameLetters_of_sameFolds_www {www : Text} (same : SameFolds t www)
    (label : ∀ d ∈ www, lowerAscii d ∈ Address.wwwLabel) : Text.SameLetters t www := by
  induction same with
  | nil => exact .nil
  | cons first _ ih =>
    obtain ⟨hd, rest⟩ := List.forall_mem_cons.mp label
    exact .cons (lowerAscii_of_sameFold_www hd first) (ih rest)

theorem exists_append_of_sameFolds {lead' : Text} (same : SameFolds t (lead ++ lead')) :
    ∃ front back, t = front ++ back ∧ SameFolds front lead ∧ SameFolds back lead' :=
  ⟨_, _, (List.take_append_drop lead.length t).symm, List.forall₂_take_append t lead lead' same,
    List.forall₂_drop_append t lead lead' same⟩

/-- A text that is found again where `www.` is put in front of it begins with `www.` itself, or is
too short to reach its dot. -/
theorem www_of_shifted (same : SameFolds t t') (whole : t' ++ r = Address.wwwLabel ++ t) :
    (∃ www more more', t = www ++ more ∧ lowered www = Address.wwwLabel ∧ SameFolds more more' ∧
      more' ++ r = t) ∨ ∀ c ∈ t, lowerAscii c = 'w' := by
  have label : ∀ d ∈ Address.wwwLabel, lowerAscii d ∈ Address.wwwLabel :=
    List.forall_iff_forall_mem.mp (by decide)
  have reaches : ∀ more', t' = Address.wwwLabel ++ more' → more' ++ r = t →
      ∃ www more more', t = www ++ more ∧ lowered www = Address.wwwLabel ∧ SameFolds more more' ∧
        more' ++ r = t := by
    rintro more' rfl rest
    obtain ⟨www, more, parts, letters, onward⟩ := exists_append_of_sameFolds same
    have lower := Text.sameLetters_iff.mp (sameLetters_of_sameFolds_www letters label)
    exact ⟨www, more, more', parts, lower.trans (by decide), onward, rest⟩
  rcases List.append_eq_append_iff.mp whole with ⟨more, longer, rest⟩ | ⟨more', longer, rest⟩
  · cases more with
    | nil => exact .inl (reaches [] (by simpa using longer.symm) (by simpa using rest))
    | cons d more =>
      have short : t' ++ (d :: more).dropLast = Address.wwwLabel.dropLast := by
        rw [longer, List.dropLast_append_cons]
      have letters : ∀ c ∈ Address.wwwLabel.dropLast,
          lowerAscii c ∈ Address.wwwLabel ∧ lowerAscii c = 'w' :=
        List.forall_iff_forall_mem.mp (by decide)
      have found : ∀ c ∈ t', lowerAscii c ∈ Address.wwwLabel ∧ lowerAscii c = 'w' :=
        fun c hc => letters c (short ▸ List.mem_append_left _ hc)
      refine .inr fun c hc => ?_
      have lower := Text.sameLetters_iff.mp
        (sameLetters_of_sameFolds_www same fun d hd => (found d hd).1)
      have mem : lowerAscii c ∈ lowered t' := lower ▸ List.mem_map_of_mem hc
      obtain ⟨d, hd, alike⟩ := List.mem_map.mp mem
      exact alike.symm.trans (found d hd).2
  · exact .inl (reaches more' longer rest.symm)

end Glob

/-- The parts behind the scheme of a page URL are what stands there. -/
theorem Address.parts_of_of? {s f : Text} {a : Address} (opens : Scheme.Opens s)
    (cut : of? (s ++ f) = some a) : a.opening = s ∧ a.userinfo ++ (a.host ++ a.rest) = f := by
  have written := (of?_cut cut).1
  rw [toText, List.append_assoc, List.append_assoc] at written
  exact (opens_of_of? cut).unique opens written

namespace Fragment

variable {f s url : Text}

theorem covers_literal_iff (starless : '*' ∉ f) (opens : Scheme.Opens s) :
    Covers f (s ++ f) ↔ Glob.endsInWord f = true := by
  constructor
  · intro covers
    cases covers with
    | everyPage star => simp [star] at starless
    | @site s' h r other opens' whole inst edge =>
      obtain ⟨-, parts⟩ := opens'.unique opens whole
      have length := ((Glob.lead_iff_of_starless starless).mp inst).length_eq
      have none : r = [] := by
        have total := congrArg List.length parts
        rw [List.length_append] at total
        exact List.length_eq_zero_iff.mp (by omega)
      subst none
      rw [List.append_nil] at parts
      exact Glob.edgeBetween_nil_iff.mp (parts ▸ edge)
  · intro ends
    have other : f ≠ ['*'] := by
      rintro rfl
      simp at starless
    exact .site other opens (congrArg (s ++ ·) (List.append_nil f))
      ((Glob.lead_iff_of_starless starless).mpr (Glob.sameFolds_refl f))
      (Glob.edgeBetween_nil_iff.mpr ends)

theorem length_of_lowered_www {www : Text} (lower : lowered www = Address.wwwLabel) :
    www.length = 4 := by
  simpa [lowered, Address.wwwLabel] using congrArg List.length lower

theorem ne_nil_of_lowered_www {www : Text} (lower : lowered www = Address.wwwLabel) : www ≠ [] := by
  rintro rfl
  cases lower

/-- What ends a host is the same as no letter of `www.`. -/
theorem not_www_of_endsHost {c : Char} (ends : c = ':' ∨ Address.endsAuthority c = true) :
    lowerAscii c ∉ Address.wwwLabel := by
  have listed : c = ':' ∨ c = '/' ∨ c = '?' ∨ c = '#' := by
    simpa [Address.endsAuthority, or_assoc] using ends
  rcases listed with rfl | rfl | rfl | rfl <;> decide

theorem endsInWord_of_letters {lead t : Text} (ne : t ≠ []) (letters : ∀ c ∈ t, lowerAscii c = 'w') :
    Glob.endsInWord (lead ++ t) = true := by
  have last := List.getLast?_eq_getLast_of_ne_nil ne
  have word : Unicode.isWordChar (t.getLast ne) = true := by
    rw [← Unicode.isWordChar_lowerAscii, letters _ (List.getLast_mem ne)]
    rfl
  rw [Glob.endsInWord, List.getLast?_append, last, Option.some_or, Option.any_some, word]

/-- A `www.` that begins in a host lies in it. -/
theorem exists_host_of_www {host rest www more : Text} (parts : host ++ rest = www ++ more)
    (lower : lowered www = Address.wwwLabel)
    (ends : ∀ c, rest.head? = some c → c = ':' ∨ Address.endsAuthority c = true) :
    ∃ host', host = www ++ host' ∧ more = host' ++ rest := by
  rcases List.append_eq_append_iff.mp parts with ⟨tail, rfl, behind⟩ | ⟨host', inside, behind⟩
  · cases tail with
    | nil => exact ⟨[], by simp, by simpa using behind.symm⟩
    | cons c tail =>
      have mem : lowerAscii c ∈ Address.wwwLabel := by
        rw [← lower]
        exact List.mem_map_of_mem (by simp)
      exact absurd mem (not_www_of_endsHost (ends c (by rw [behind]; rfl)))
  · exact ⟨host', inside, behind⟩

theorem exists_append_of_found {lead t h r behind : Text} (same : Glob.SameFolds (lead ++ t) h)
    (found : h ++ r = lead ++ behind) :
    ∃ h', h = lead ++ h' ∧ h' ++ r = behind ∧ Glob.SameFolds t h' := by
  have length := same.length_eq
  rw [List.length_append] at length
  have longer : lead <+: h :=
    List.prefix_of_prefix_length_le ⟨behind, found.symm⟩ ⟨r, rfl⟩ (by omega)
  obtain ⟨h', rfl⟩ := longer
  obtain ⟨front, back, parts, alike, onward⟩ := Glob.exists_append_of_sameFolds same
  obtain ⟨rfl, rfl⟩ := List.append_inj parts alike.length_eq.symm
  exact ⟨h', rfl, by simpa using found, onward⟩

/-- A fragment that does not cover the URL that it is written in covers it under the other form of
its host only if the host is `www.` and nothing is behind it. -/
theorem www_of_covers_toggled {a : Address} (cut : Address.of? url = some a)
    (full : a.host ≠ []) (starless : '*' ∉ f) (parts : a.userinfo ++ (a.host ++ a.rest) = f)
    (covers : Covers f a.toggled.toText) (edgeless : Glob.endsInWord f = false) :
    lowered a.host = Address.wwwLabel ∧ a.rest = [] := by
  have opens := Address.opens_of_of? cut
  have ends := (Address.of?_cut cut).2
  cases covers with
  | everyPage star => simp [star] at starless
  | @site s' h r other opens' whole inst edge =>
    have same := (Glob.lead_iff_of_starless starless).mp inst
    have written : a.toggled.toText =
        a.opening ++ (a.userinfo ++ (Address.toggledHost a.host ++ a.rest)) := by
      simp [Address.toText, Address.toggled]
    have found := (opens'.unique opens (whole.trans written)).2
    have length := same.length_eq
    rw [← parts] at same length
    rcases Address.toggledHost_cases a.host with ⟨lead, c, host', www, long, taken⟩ | put
    · -- Without its `www.` the URL is too short for the fragment.
      have total := congrArg List.length found
      have four := length_of_lowered_www www
      rw [taken] at total
      simp only [long, List.length_append, List.length_cons] at total length
      omega
    · rw [put, List.append_assoc] at found
      obtain ⟨h', rfl, behind, twin⟩ := exists_append_of_found same found
      rcases Glob.www_of_shifted twin behind with
        ⟨www, more, more', split, lower, onward, again⟩ | letters
      · obtain ⟨host', inside, rfl⟩ := exists_host_of_www split lower ends
        cases host' with
        | cons c host' =>
          have taken : Address.toggledHost (www ++ c :: host') = c :: host' :=
            Address.toggledHost_of_www lower
          have lengths := congrArg List.length (inside ▸ put)
          rw [taken] at lengths
          simp only [List.length_append, List.length_cons] at lengths
          have four : Address.wwwLabel.length = 4 := rfl
          omega
        | nil =>
          rw [List.append_nil] at inside
          refine ⟨inside ▸ lower, ?_⟩
          rw [List.nil_append] at onward
          cases behindHost : a.rest with
          | nil => rfl
          | cons d tail =>
            -- The first character behind the host would have to be a letter of the `www.`.
            rw [behindHost] at onward again split
            cases onward with
            | @cons _ e _ _ alike _ =>
              obtain ⟨w, label, rfl⟩ := List.exists_cons_of_ne_nil (ne_nil_of_lowered_www lower)
              have head := (List.cons.inj (again.trans split)).1
              have mem : lowerAscii e ∈ Address.wwwLabel := by
                rw [head, ← lower]
                exact List.mem_map_of_mem List.mem_cons_self
              have delimiter := not_www_of_endsHost (ends d (by rw [behindHost]; rfl))
              rw [Glob.lowerAscii_of_sameFold_www mem alike] at delimiter
              exact absurd mem delimiter
      · have some : a.host ++ a.rest ≠ [] := List.append_ne_nil_of_left_ne_nil full a.rest
        have word : Glob.endsInWord (a.userinfo ++ (a.host ++ a.rest)) = true :=
          endsInWord_of_letters some letters
        rw [parts, edgeless] at word
        cases word

theorem covers_toggled_of_www {a : Address} (opens : Scheme.Opens a.opening) (starless : '*' ∉ f)
    (parts : a.userinfo ++ (a.host ++ a.rest) = f) (lower : lowered a.host = Address.wwwLabel)
    (bare : a.rest = []) : Covers f a.toggled.toText := by
  have put : Address.toggledHost a.host = Address.wwwLabel ++ a.host := by
    rcases Address.toggledHost_cases a.host with ⟨lead, c, rest, www, long, -⟩ | put
    · have four := length_of_lowered_www lower
      have four' := length_of_lowered_www www
      rw [long] at four
      simp only [List.length_append, List.length_cons] at four
      omega
    · exact put
  have whole : a.opening ++ ((a.userinfo ++ Address.wwwLabel) ++ a.host) = a.toggled.toText := by
    simp [Address.toText, Address.toggled, put, bare]
  have other : f ≠ ['*'] := by
    rintro rfl
    simp at starless
  have letters : Glob.SameFolds a.host Address.wwwLabel :=
    (Text.sameLetters_iff.mpr (lower.trans (by decide))).imp fun c d same => by
      rw [← Glob.sameFold_congr c same, Unicode.sameFold, beq_self_eq_true]
  refine .site other opens whole ((Glob.lead_iff_of_starless starless).mpr ?_) ?_
  · rw [← parts, bare, List.append_nil]
    exact List.rel_append (Glob.sameFolds_refl a.userinfo) letters
  · obtain ⟨w, label, first⟩ := List.exists_cons_of_ne_nil (ne_nil_of_lowered_www lower)
    have word : Unicode.isWordChar w = true := by
      rw [first] at lower
      rw [← Unicode.isWordChar_lowerAscii, (List.cons.inj lower).1]
      rfl
    have dot : (a.userinfo ++ Address.wwwLabel).getLast? = some '.' := by
      rw [List.getLast?_append]
      rfl
    rw [Glob.EdgeBetween, dot, first, List.head?_cons, Option.any_some, Option.any_some, word]
    decide

end Fragment

namespace SitePattern

variable {f s : Text} {p : SitePattern}

/-- A fragment without stars accepts the page URL that spells it exactly if it ends in a word, or
its host is `www.` and nothing is behind that. -/
theorem accepts_literal_iff (compiled : compile f = .ok p) (word : ∀ c ∈ f, Text.isBlank c = false)
    (starless : '*' ∉ f) (opens : Scheme.Opens s) :
    p.accepts (s ++ f) = true ↔ Glob.endsInWord f = true ∨
      ∃ a, Address.of? (s ++ f) = some a ∧ lowered a.host = Address.wwwLabel ∧ a.rest = [] := by
  have some : f ≠ [] := by
    rintro rfl
    cases compiled
  have written := Fragment.covers_literal_iff starless opens
  rw [accepts_iff_covers compiled, Text.words_of_not_blank some word]
  simp only [List.mem_singleton, exists_eq_left]
  constructor
  · rintro ⟨-, u, rfl | twin, covers⟩
    · exact .inl (written.mp covers)
    · by_cases ends : Glob.endsInWord f = true
      · exact .inl ends
      obtain ⟨a, cut, full, other⟩ := Address.exists_of_twin? twin
      obtain ⟨-, parts⟩ := Address.parts_of_of? opens cut
      rw [← (Address.of?_cut other).1] at covers
      exact .inr ⟨a, cut, Fragment.www_of_covers_toggled cut full starless parts covers
        (Bool.eq_false_iff.mpr ends)⟩
  · rintro (ends | ⟨a, cut, lower, bare⟩)
    · exact ⟨⟨s, f, opens, rfl⟩, _, .inl rfl, written.mpr ends⟩
    · obtain ⟨opening, parts⟩ := Address.parts_of_of? opens cut
      have covers := Fragment.covers_toggled_of_www (opening ▸ opens) starless parts lower bare
      have full := Fragment.ne_nil_of_lowered_www lower
      have variant := Address.wwwVariant?_eq_some_iff.mpr ⟨full, rfl⟩
      refine ⟨⟨s, f, opens, rfl⟩, _, .inr ?_, covers⟩
      rw [Address.twin?, cut, Option.bind_some, variant, Option.map_some]

/-- The pattern of the news of a bookshop, written as a page with a port. -/
def bookNews : SitePattern :=
  ⟨"Books.com:8080/caf\u00e9?id=7".toList, [.glob "Books.com:8080/caf\u00e9?id=7".toList]⟩

theorem accepts_literal_bookNews :
    compile bookNews.raw = .ok bookNews ∧ (∀ c ∈ bookNews.raw, Text.isBlank c = false) ∧
      '*' ∉ bookNews.raw ∧ bookNews.accepts ("https://".toList ++ bookNews.raw) = true ∧
      bookNews.accepts ("http://".toList ++ bookNews.raw) = true := by
  have compiled : compile bookNews.raw = .ok bookNews := by decide +kernel
  have word : ∀ c ∈ bookNews.raw, Text.isBlank c = false :=
    List.forall_iff_forall_mem.mp (by decide +kernel)
  have starless : '*' ∉ bookNews.raw := by decide +kernel
  have ends : Glob.endsInWord bookNews.raw = true := by decide +kernel
  exact ⟨compiled, word, starless,
    (accepts_literal_iff compiled word starless (.inr (by decide))).mpr (.inl ends),
    (accepts_literal_iff compiled word starless (.inl (by decide))).mpr (.inl ends)⟩

/-- A pattern that ends in a slash compiles, but the page that it spells is not accepted. -/
theorem closing_slash_rejects_itself :
    compile "books.com/".toList = .ok ⟨"books.com/".toList, [.glob "books.com/".toList]⟩ ∧
      '*' ∉ "books.com/".toList ∧
      accepts ⟨"books.com/".toList, [.glob "books.com/".toList]⟩ "https://books.com/".toList =
        false ∧
      accepts ⟨"books.com/".toList, [.glob "books.com/".toList]⟩ "http://books.com/".toList =
        false := by
  decide +kernel

end SitePattern

end Declutter
