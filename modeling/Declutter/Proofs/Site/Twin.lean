import Declutter.Proofs.Site.Meaning
import Declutter.Proofs.Unicode.Fold

namespace Declutter

open Text (lowerAscii lowered)

/-- Texts that differ at most in the case of ASCII letters. -/
abbrev Text.SameLetters (s t : Text) : Prop :=
  List.Forall₂ (fun c d => lowerAscii c = lowerAscii d) s t

theorem Text.sameLetters_iff {s t : Text} : SameLetters s t ↔ lowered s = lowered t := by
  rw [lowered, lowered, ← List.forall₂_eq_eq_eq, List.forall₂_map_left_iff,
    List.forall₂_map_right_iff]

namespace Glob

variable {c d : Char}

theorem isInLabel_congr (same : lowerAscii c = lowerAscii d) : isInLabel c = isInLabel d := by
  have lower : ∀ b : Char, isInLabel b = isInLabel (lowerAscii b) := by
    intro b
    have dot := Text.lowerAscii_eq_iff (c := b) (d := '.') (by decide)
    have slash := Text.lowerAscii_eq_iff (c := b) (d := '/') (by decide)
    simp only [isInLabel, bne, Bool.beq_eq_decide_eq, dot, slash]
  rw [lower c, same, ← lower d]

theorem sameFold_congr (g : Char) (same : lowerAscii c = lowerAscii d) :
    Unicode.sameFold g c = Unicode.sameFold g d := by
  rw [Unicode.sameFold, Unicode.sameFold, ← Unicode.fold_lowerAscii c, same,
    Unicode.fold_lowerAscii]

theorem isWordChar_congr (same : lowerAscii c = lowerAscii d) :
    Unicode.isWordChar c = Unicode.isWordChar d := by
  rw [← Unicode.isWordChar_lowerAscii c, same, Unicode.isWordChar_lowerAscii]

theorem isWordEdge_congr {s t : Text} (same : Text.SameLetters s t)
    (lasts : Unicode.isWordChar c = Unicode.isWordChar d) :
    isWordEdge c s.head? = isWordEdge d t.head? := by
  have heads : s.head?.any Unicode.isWordChar = t.head?.any Unicode.isWordChar := by
    cases same with
    | nil => rfl
    | cons first _ => exact isWordChar_congr first
  rw [isWordEdge, isWordEdge, lasts, heads]

theorem startsAt_congr {s t : Text} (same : Text.SameLetters s t) (glob : Text)
    (lasts : Unicode.isWordChar c = Unicode.isWordChar d) :
    startsAt glob c s = startsAt glob d t := by
  induction glob, c, s using startsAt.induct generalizing d t with
  | case1 last rest =>
    rw [startsAt, startsAt]
    exact isWordEdge_congr same lasts
  | case2 last g glob =>
    cases same
    rfl
  | case3 last glob a rest ihGlob ihStar =>
    cases same with
    | cons first same =>
      have lasts := isWordChar_congr first
      rw [startsAt_star, startsAt_star, isInLabel_congr first, ihGlob same lasts,
        ihStar same lasts]
  | case4 last g glob a rest ne ih =>
    cases same with
    | cons first same =>
      rw [startsAt_letter ne, startsAt_letter ne, sameFold_congr g first,
        ih same (isWordChar_congr first)]

end Glob

theorem Fragment.accepts_congr (f : Fragment) {s t : Text} (same : Text.SameLetters s t) :
    f.accepts s = f.accepts t := by
  cases f with
  | everyPage =>
    cases same with
    | nil => rfl
    | @cons c d _ _ first _ =>
      have line := Text.lowerAscii_eq_iff (c := c) (d := '\n') (by decide)
      rw [first, Text.lowerAscii_eq_iff (by decide)] at line
      simp only [accepts, List.head?_cons, Option.any_some, bne, Bool.beq_eq_decide_eq, line]
  | glob g => exact Glob.startsAt_congr same g rfl

namespace Address

/-- Whether a host would begin with `www.` also without its first one. -/
def repeatsWww (host : Text) : Bool :=
  (Text.afterIgnoringCase? (wwwLabel ++ wwwLabel) host).any (· != [])

theorem toggledHost_cases (host : Text) :
    (∃ lead c rest, lowered lead = wwwLabel ∧ host = lead ++ c :: rest ∧
      toggledHost host = c :: rest) ∨ toggledHost host = wwwLabel ++ host := by
  have www : lowered wwwLabel = wwwLabel := by decide
  unfold toggledHost
  split
  next c rest found =>
    obtain ⟨lead, whole, same⟩ := Text.afterIgnoringCase?_eq_some_iff.mp found
    exact .inl ⟨lead, c, rest, same.trans www, whole.symm, rfl⟩
  next => exact .inr rfl

theorem toggledHost_of_www {lead rest : Text} {c : Char} (www : lowered lead = wwwLabel) :
    toggledHost (lead ++ c :: rest) = c :: rest := by
  have found : Text.afterIgnoringCase? wwwLabel (lead ++ c :: rest) = some (c :: rest) :=
    Text.afterIgnoringCase?_eq_some_iff.mpr ⟨lead, rfl, www.trans (by decide)⟩
  rw [toggledHost, found]

/-- Toggled twice, a host is as it was or has its `www.` in lower case, unless `www.` is repeated. -/
theorem toggledHost_twice {host : Text} (full : host ≠ []) (single : repeatsWww host = false) :
    toggledHost (toggledHost host) = host ∨ ∃ lead rest, lowered lead = wwwLabel ∧
      lead ++ rest = host ∧ toggledHost (toggledHost host) = wwwLabel ++ rest := by
  rcases toggledHost_cases host with ⟨lead, c, rest, www, rfl, taken⟩ | put
  · rw [taken]
    rcases toggledHost_cases (c :: rest) with ⟨again, d, more, www', split, -⟩ | put
    · -- Here the host would have had another `www.` behind the first.
      have found : Text.afterIgnoringCase? (wwwLabel ++ wwwLabel) (lead ++ c :: rest) =
          some (d :: more) := by
        refine Text.afterIgnoringCase?_eq_some_iff.mpr ⟨lead ++ again, ?_, ?_⟩
        · rw [List.append_assoc, split]
        · rw [lowered, List.map_append]
          exact (congrArg₂ _ www www').trans (by decide)
      rw [repeatsWww, found] at single
      cases single
    · exact .inr ⟨lead, c :: rest, www, rfl, put⟩
  · obtain ⟨c, rest, rfl⟩ := List.exists_cons_of_ne_nil full
    rw [put, toggledHost_of_www (by decide)]
    exact .inl rfl

/-- Toggled twice, a host is as it was up to the case of its `www.`, unless `www.` is repeated. -/
theorem toggledHost_toggledHost {host : Text} (full : host ≠ [])
    (single : repeatsWww host = false) :
    Text.SameLetters (toggledHost (toggledHost host)) host := by
  rw [Text.sameLetters_iff]
  rcases toggledHost_twice full single with same | ⟨lead, rest, www, rfl, again⟩
  · rw [same]
  · rw [again, lowered, lowered, List.map_append, List.map_append]
    exact congrArg (· ++ _) (www.trans rfl).symm

theorem mem_toggledHost {host : Text} {c : Char} (h : c ∈ toggledHost host) :
    c ∈ host ∨ c ∈ wwwLabel := by
  rcases toggledHost_cases host with ⟨lead, d, rest, -, rfl, taken⟩ | put
  · rw [taken] at h
    exact .inl (List.mem_append_right lead h)
  · rw [put, List.mem_append] at h
    exact h.symm

theorem toggledHost_ne_nil (host : Text) : toggledHost host ≠ [] := by
  rcases toggledHost_cases host with ⟨lead, d, rest, -, -, taken⟩ | put
  · simp [taken]
  · simp [put, wwwLabel]

/-- The page under the other form of its host. -/
def toggled (a : Address) : Address :=
  { a with host := toggledHost a.host }

theorem wwwVariant?_eq_some_iff {a b : Address} :
    a.wwwVariant? = some b ↔ a.host ≠ [] ∧ a.toggled = b := by
  unfold wwwVariant? toggled
  split
  next none => simp [List.isEmpty_iff.mp none]
  next full => simpa [List.isEmpty_iff] using fun _ => full

theorem WellCut.toggled {a : Address} (cut : a.WellCut) : a.toggled.WellCut where
  opening := cut.opening
  userinfo := cut.userinfo
  noEnd := cut.noEnd
  host c hc := by
    rcases mem_toggledHost hc with hc | hc
    · exact cut.host c hc
    · have label : (wwwLabel.all fun c => c != '@' && (c != ':' && !endsAuthority c)) = true := by
        decide
      simpa using List.all_eq_true.mp label c hc
  rest := cut.rest

/-- The twin of a page URL is cut where the URL is. -/
theorem exists_of_twin? {url twin : Text} (h : twin? url = some twin) :
    ∃ a, of? url = some a ∧ a.host ≠ [] ∧ of? twin = some a.toggled := by
  obtain ⟨b, hb, rfl⟩ := Option.map_eq_some_iff.mp h
  obtain ⟨a, cut, variant⟩ := Option.bind_eq_some_iff.mp hb
  obtain ⟨full, rfl⟩ := wwwVariant?_eq_some_iff.mp variant
  exact ⟨a, cut, full, of?_toText (wellCut_of_of? cut).1.toggled⟩

end Address

namespace SitePattern

variable (p : SitePattern) {url : Text} {a : Address}

theorem accepts_of_cut (cut : Address.of? url = some a) (full : a.host ≠ []) :
    p.accepts url = (p.acceptsAsWritten a || p.acceptsAsWritten a.toggled) := by
  rw [accepts, cut]
  dsimp only
  rw [Address.wwwVariant?_eq_some_iff.mpr ⟨full, rfl⟩, Option.any_some]

theorem acceptsAsWritten_congr (a : Address) {host : Text} (same : Text.SameLetters host a.host) :
    p.acceptsAsWritten { a with host } = p.acceptsAsWritten a := by
  have whole : Text.SameLetters (a.userinfo ++ host ++ a.rest)
      (a.userinfo ++ a.host ++ a.rest) := by
    rw [Text.sameLetters_iff] at same ⊢
    simp only [lowered, List.map_append] at same ⊢
    rw [same]
  unfold acceptsAsWritten
  congr 1
  funext f
  exact f.accepts_congr whole

/-- A page URL and its twin are accepted alike unless the host repeats its `www.`, when the twin of
the twin is a third URL: then they are if the twin is accepted as it is written or the other two
alike. -/
theorem accepts_twin {twin : Text} (h : Address.twin? url = some twin) :
    ∃ a, Address.of? url = some a ∧
      (Address.repeatsWww a.host = false → p.accepts url = p.accepts twin) ∧
      (p.accepts url = p.accepts twin ↔ p.acceptsAsWritten a.toggled = true ∨
        p.acceptsAsWritten a = p.acceptsAsWritten a.toggled.toggled) := by
  obtain ⟨a, cut, full, cut'⟩ := Address.exists_of_twin? h
  have written := p.accepts_of_cut cut full
  have other := p.accepts_of_cut cut' (Address.toggledHost_ne_nil a.host)
  have alike : p.accepts url = p.accepts twin ↔ p.acceptsAsWritten a.toggled = true ∨
      p.acceptsAsWritten a = p.acceptsAsWritten a.toggled.toggled := by
    rw [written, other]
    cases p.acceptsAsWritten a <;> cases p.acceptsAsWritten a.toggled <;>
      cases p.acceptsAsWritten a.toggled.toggled <;> decide
  refine ⟨a, cut, fun single => alike.mpr (.inr ?_), alike⟩
  exact (p.acceptsAsWritten_congr a (Address.toggledHost_toggledHost full single)).symm

/-- The pattern of one bookshop. -/
def bookshop : SitePattern := ⟨"books.com".toList, [.glob "books.com".toList]⟩

theorem accepts_twin_bookshop :
    compile bookshop.raw = .ok bookshop ∧
      Address.twin? "HTTPS://WWW.books.com:80/a@b".toList = some "HTTPS://books.com:80/a@b".toList ∧
      bookshop.accepts "HTTPS://books.com:80/a@b".toList = true ∧
      bookshop.accepts "HTTPS://WWW.books.com:80/a@b".toList = true := by
  have twin : Address.twin? "HTTPS://WWW.books.com:80/a@b".toList =
      some "HTTPS://books.com:80/a@b".toList := by decide +kernel
  have accepted : bookshop.accepts "HTTPS://books.com:80/a@b".toList = true := by decide +kernel
  have host : Address.of? "HTTPS://WWW.books.com:80/a@b".toList =
      some ⟨.https, "HTTPS://".toList, [], "WWW.books.com".toList, ":80/a@b".toList⟩ := by
    decide +kernel
  obtain ⟨a, cut, alike, -⟩ := bookshop.accepts_twin twin
  obtain rfl := Option.some.inj (host.symm.trans cut)
  exact ⟨by decide +kernel, twin, accepted, (alike (by decide)).trans accepted⟩

/-- The twin of the bookshop under a second `www.` is its own page, which is accepted, as is the
second twin, but not the first URL. -/
theorem accepts_repeated_www :
    compile bookshop.raw = .ok bookshop ∧
      Address.twin? "https://www.www.books.com/".toList = some "https://www.books.com/".toList ∧
      bookshop.accepts "https://www.www.books.com/".toList = false ∧
      bookshop.accepts "https://www.books.com/".toList = true := by
  decide +kernel

end SitePattern

end Declutter
